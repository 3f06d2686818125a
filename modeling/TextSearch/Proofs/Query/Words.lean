import Mathlib.Algebra.Group.Nat.Defs
import TextSearch.Proofs.Query.Balance
import TextSearch.Proofs.Query.Leaves

/-!
# Queries of plain words

The simplest queries are words, side by side or with one connective between them.  Such a query is
never refused for its length: the words are one run, so the tree over them is as high as their
number can be halved, and it asks for what the words ask for, whichever way the run is halved.

Main results:

- Theorem `IsPlainWord.scan`: a plain word is scanned as a term wherever a word may end.
- Theorem `parse_words`: plain words are read as the balanced tree over them.
- Theorem `parse_plainWords`: what this tree holds, how high it is, and what it finds.
-/

namespace TextSearch

/-! ## Plain words -/

/-- A word of letters and digits that neither joins operands nor negates one. -/
structure IsPlainWord (word : String) : Prop where
  ne_empty : word ≠ ""
  alphanumeric : ∀ c ∈ word.toList, Text.isAlphanumeric c = true
  not_keyword : ∀ keyword ∈ ["and", "or", "not"], Symbol.isKeyword keyword word.toList = false

namespace IsPlainWord

variable {word : String} (h : IsPlainWord word)
include h

/-- A plain word has only letters and digits. -/
theorem not_mem {c : Char} (hc : Text.isAlphanumeric c = false) : c ∉ word.toList := by
  intro hmem
  rw [h.alphanumeric c hmem] at hc
  contradiction

/-- A plain word has nothing in it that another rule of reading begins or ends with. -/
theorem isWord : Symbol.IsWord word.toList where
  start := by
    obtain ⟨c, rest, hword⟩ := List.exists_cons_of_ne_nil (mt String.toList_eq_nil_iff.mp h.ne_empty)
    refine ⟨c, by rw [hword]; rfl, ?_⟩
    rintro rfl
    exact h.not_mem (c := '"') (by decide) (by rw [hword]; exact List.mem_cons_self)
  parts := by
    intro c hc
    have hpart : Symbol.isNamePart c = true := by
      rw [Symbol.isNamePart, h.alphanumeric c hc, Bool.true_or]
    refine (Symbol.isWordPart_iff c).mpr ⟨Symbol.isBlank_of_isNamePart hpart, ?_, ?_⟩
    · rintro rfl
      exact h.not_mem (by decide) hc
    · rintro rfl
      exact h.not_mem (by decide) hc
  not_field := by
    rw [Option.eq_none_iff_forall_ne_some]
    intro name hname
    obtain ⟨-, rest, hsplit⟩ := (Symbol.fieldName?_eq_some_iff _ _).mp hname
    exact h.not_mem (c := ':') (by decide) (by simp [hsplit])

/-- A plain word stands for itself. -/
theorem ofWord_eq : Symbol.ofWord word.toList = .term word := by
  have hwild : word.toList.any (fun c => c == '*' || c == '?') = false := by
    rw [List.any_eq_false]
    intro c hc
    rw [Bool.or_eq_true, beq_iff_eq, beq_iff_eq, not_or]
    constructor
    · rintro rfl
      exact h.not_mem (by decide) hc
    · rintro rfl
      exact h.not_mem (by decide) hc
  have hkeywords := h.not_keyword
  simp only [List.forall_mem_cons] at hkeywords
  obtain ⟨hand, hor, hnot, -⟩ := hkeywords
  simp [Symbol.ofWord, hand, hor, hnot, hwild]

/-- A plain word is scanned as a term wherever a word may end. -/
theorem scan {tail : List Char} (htail : Symbol.StopsAt Symbol.isWordPart tail) :
    Symbol.scan (word.toList ++ tail) = .term word :: Symbol.scan tail := by
  have hname : Symbol.fieldName? (word.toList ++ tail) = none := by
    rw [Symbol.fieldName?_append]
    · exact h.isWord.not_field
    · exact fun c hc => Symbol.not_namePart_of_not_wordPart (htail c hc)
  rw [Symbol.scan_word h.isWord hname htail, h.ofWord_eq]
  intro rest hbracket
  exact absurd (by simp [hbracket]) (h.not_mem (c := '[') (by decide))

end IsPlainWord

/-! ## Words in a row -/

/-- The derivation of the query of one word. -/
def Derivation.ofTerm (word : String) : Derivation .primary :=
  .leaf (.term word)

theorem Derivation.tree_ofTerm (word : String) : (ofTerm word).tree = .term word :=
  Run.tree_single _

/-- The tree over terms has these terms as its leaves. -/
theorem Connective.leaves_balance_terms (connective : Connective) {words : List String}
    (h : words ≠ []) :
    (connective.balance (words.map .term)).leaves = words.map .term := by
  have hmarks : (words.map Query.term).flatMap Query.marks = words.map .term := by
    rw [List.flatMap_map]
    exact List.flatMap_pure_eq_map Symbol.term words
  rw [← Query.filter_marks, connective.marks_balance (by simpa using h), hmarks,
    List.filter_eq_self]
  simp

/-- The tree over terms is higher than a term by the number of times that their number can be
halved. -/
theorem Connective.height_balance_terms (connective : Connective) {words : List String}
    (h : words ≠ []) :
    (connective.balance (words.map .term)).height = Nat.clog 2 words.length + 1 := by
  have hheight : ∀ operand ∈ words.map Query.term, operand.height = 1 := by
    simp [Query.height]
  rw [connective.height_balance hheight (by simpa using h), List.length_map, Nat.add_comm]

/-- Plain words are read as the balanced tree over them, without any fault. -/
theorem parse_words {words : List String} (hne : words ≠ []) (hlength : words.length ≤ 2 ^ 63)
    (hwords : ∀ word ∈ words, IsPlainWord word) (link : Link) :
    parse (link.between.intercalate words) =
      ⟨link.connective.balance (words.map .term), []⟩ := by
  obtain ⟨first, further, rfl⟩ := List.exists_cons_of_ne_nil hne
  have htrees : (Derivation.ofTerm first :: further.map .ofTerm).map Derivation.tree =
      (first :: further).map Query.term := by
    rw [← List.map_cons, List.map_map]
    exact List.map_congr_left fun word _ => Derivation.tree_ofTerm word
  rw [← htrees]
  apply parse_of_row
  · have hscan := Symbol.scan_row link id Derivation.ofTerm first further
      fun word hword tail htail => (hwords word hword).scan htail
    rwa [List.map_id] at hscan
  · simp [Derivation.ofTerm, Derivation.unclosedGroups]
  · simp [Derivation.ofTerm, Derivation.nesting]
  · simp [Derivation.tree_ofTerm, Connective.implied]
  · have hhalves : Nat.clog 2 (first :: further).length ≤ 63 :=
      Nat.clog_le_of_le_pow hlength
    rw [htrees, Connective.height_balance_terms _ hne, heightLimit]
    omega

/-! ## What words find -/

/-- The slot is under all of the words in lower case, or it is under one of them. -/
def Link.Finds (link : Link) (index : Index) (words : List String) (slot : Slot) : Prop :=
  match link with
  | .and => ∀ word ∈ words, slot ∈ index.postings.slots (Text.lowercase word)
  | .beside | .or => ∃ word ∈ words, slot ∈ index.postings.slots (Text.lowercase word)

/-- The tree over terms finds the slots under all of them, or under one of them. -/
theorem Link.mem_evaluate_balance_iff_finds (link : Link) {words : List String} (h : words ≠ [])
    (index : Index) (slot : Slot) :
    slot ∈ index.evaluate (link.connective.balance (words.map .term)) ↔
      link.Finds index words slot := by
  rw [Connective.mem_evaluate_balance _ (by simpa using h)]
  cases link <;> simp [Link.connective, Connective.Finds, Link.Finds, Index.evaluate]

/-- Plain words, as many as there may be, are read without any fault, side by side or with a
connective between them.  The leaves of the tree are the words in their order, its height is one
more than the number of times that their number can be halved, and it finds in every index what is
under one of the words, or, if the connective is *and*, what is under all of them. -/
theorem parse_plainWords {words : List String} (hne : words ≠ []) (hlength : words.length ≤ 2 ^ 63)
    (hwords : ∀ word ∈ words, IsPlainWord word) (link : Link) :
    (parse (link.between.intercalate words)).errors = [] ∧
      (parse (link.between.intercalate words)).tree.leaves = words.map .term ∧
      (parse (link.between.intercalate words)).tree.height = Nat.clog 2 words.length + 1 ∧
      ∀ index slot, slot ∈ index.evaluate (parse (link.between.intercalate words)).tree ↔
        link.Finds index words slot := by
  rw [parse_words hne hlength hwords link]
  exact ⟨rfl, link.connective.leaves_balance_terms hne, link.connective.height_balance_terms hne,
    link.mem_evaluate_balance_iff_finds hne⟩

/-- Five words, two of which begin like a connective. -/
theorem parse_plainWords_five :
    (parse "Andes AND 2024 AND Über AND x AND ORBIT").errors = [] ∧
      (parse "Andes AND 2024 AND Über AND x AND ORBIT").tree.leaves =
        [.term "Andes", .term "2024", .term "Über", .term "x", .term "ORBIT"] ∧
      (parse "Andes AND 2024 AND Über AND x AND ORBIT").tree.height = 4 ∧
      (parse "2024 ORBIT Über").tree.height = 3 := by
  have hplain : ∀ word ∈ ["Andes", "2024", "Über", "x", "ORBIT"], IsPlainWord word := by
    have hchars : ∀ word ∈ ["Andes", "2024", "Über", "x", "ORBIT"],
        word ≠ "" ∧ word.toList.all Text.isAlphanumeric = true ∧
          ∀ keyword ∈ ["and", "or", "not"], Symbol.isKeyword keyword word.toList = false := by
      decide +kernel
    intro word hmem
    obtain ⟨hempty, halphanumeric, hkeyword⟩ := hchars word hmem
    exact ⟨hempty, List.all_eq_true.mp halphanumeric, hkeyword⟩
  obtain ⟨herrors, hleaves, hheight, -⟩ := parse_plainWords
    (by decide : ["Andes", "2024", "Über", "x", "ORBIT"] ≠ []) (by decide) hplain .and
  obtain ⟨-, -, hbeside, -⟩ := parse_plainWords
    (by decide : ["2024", "ORBIT", "Über"] ≠ []) (by decide)
    (fun word hmem => hplain word (by simp at hmem ⊢; tauto)) .beside
  have htext : Link.and.between.intercalate ["Andes", "2024", "Über", "x", "ORBIT"] =
      "Andes AND 2024 AND Über AND x AND ORBIT" := by
    decide +kernel
  have hspaced : Link.beside.between.intercalate ["2024", "ORBIT", "Über"] = "2024 ORBIT Über" := by
    decide +kernel
  rw [htext] at herrors hleaves hheight
  rw [hspaced] at hbeside
  refine ⟨herrors, hleaves, hheight.trans ?_, hbeside.trans ?_⟩
  · decide +kernel
  · decide +kernel

end TextSearch
