import TextSearch.Proofs.Query.Simulation
import Mathlib.Data.List.DropRight

/-!
# Blanks around a query

Blanks before and behind a query change no symbol, except that a phrase without its closing mark
runs to the end of the text and takes the blanks along.  So a query and its trimmed text have
symbols of the same kinds.

Main results:

- Theorem `trim_trim`: trimming twice is trimming once.
- Theorem `scan_append_blanks`: blanks behind a text do not change the kinds of its symbols.
- Theorem `sameKind_scan_trim`: a text and its trimmed text have symbols of the same kinds.
-/

namespace TextSearch

namespace Text

/-- A text is its trimmed text with blanks at both ends. -/
theorem exists_toList_eq_trim (s : String) :
    ∃ lead trail : List Char, s.toList = lead ++ (trim s).toList ++ trail ∧
      (∀ c ∈ lead, isBlank c = true) ∧ ∀ c ∈ trail, isBlank c = true := by
  let body := s.toList.dropWhile isBlank
  refine ⟨s.toList.takeWhile isBlank, body.rtakeWhile isBlank, ?_, ?_, ?_⟩
  · have hbody : body.rdropWhile isBlank ++ body.rtakeWhile isBlank = body :=
      List.rdropWhile_append_rtakeWhile
    rw [trim, String.toList_ofList, List.append_assoc]
    rw [show (body.reverse.dropWhile isBlank).reverse = body.rdropWhile isBlank from rfl, hbody]
    exact List.takeWhile_append_dropWhile.symm
  · intro c hc
    exact List.mem_takeWhile_imp hc
  · intro c hc
    exact List.mem_rtakeWhile_imp hc

/-- Trimming twice is trimming once. -/
theorem trim_trim (s : String) : trim (trim s) = trim s := by
  let body := s.toList.dropWhile isBlank
  have htrim : (trim s).toList = body.rdropWhile isBlank := by
    rw [trim, String.toList_ofList]
    rfl
  have hstop : Symbol.StopsAt isBlank (body.rdropWhile isBlank) := by
    intro c hc
    rcases List.head?_eq_some_iff.mp hc with ⟨rest, hrest⟩
    rcases List.rdropWhile_prefix isBlank body with ⟨excess, hexcess⟩
    apply Symbol.stopsAt_dropWhile isBlank s.toList
    rw [show s.toList.dropWhile isBlank = body from rfl, ← hexcess, hrest]
    rfl
  have htwice : ((trim s).toList.dropWhile isBlank).rdropWhile isBlank = (trim s).toList := by
    rw [htrim, Symbol.dropWhile_of_stopsAt hstop, List.rdropWhile_idempotent]
  calc trim (trim s)
      = .ofList (((trim s).toList.dropWhile isBlank).rdropWhile isBlank) := rfl
    _ = trim s := by rw [htwice, String.ofList_toList]

end Text

namespace Symbol

theorem SameKind.refl (symbol : Symbol) : symbol.SameKind symbol := by
  cases symbol with
  | term value => exact SameKind.leaf rfl rfl
  | phrase value => exact SameKind.leaf rfl rfl
  | wildcard pattern => exact SameKind.leaf rfl rfl
  | range low high => exact SameKind.leaf rfl rfl
  | field name => exact SameKind.field name name
  | and => exact SameKind.and
  | or => exact SameKind.or
  | not => exact SameKind.not
  | opening => exact SameKind.opening
  | closing => exact SameKind.closing

/-! ## Texts with something behind -/

/-- A run is the same with a text behind it that stops it. -/
theorem takeWhile_append_of_stopsAt {p : Char → Bool} (xs : List Char) {ys : List Char}
    (h : StopsAt p ys) : (xs ++ ys).takeWhile p = xs.takeWhile p := by
  rw [List.takeWhile_append]
  split
  · rename_i hall
    have hxs : xs.takeWhile p = xs := (List.takeWhile_prefix p).eq_of_length hall
    rw [takeWhile_of_stopsAt h, List.append_nil, hxs]
  · rfl

/-- What follows a text does not change whether it goes on as a range, if no range of this text
reaches into it. -/
theorem range?_append {cs tail : List Char}
    (h : ∀ low high c excess rest, tail = c :: excess ++ rest →
      ¬ IsRange low high (cs ++ c :: excess)) : range? (cs ++ tail) = range? cs := by
  apply Option.ext
  rintro ⟨low, high, width⟩
  rw [range?_eq_some_iff, range?_eq_some_iff]
  constructor
  · rintro ⟨text, rest, htext, hsplit, hwidth⟩
    rw [List.append_eq_append_iff] at hsplit
    rcases hsplit with ⟨excess, rfl, htail⟩ | ⟨left, hleft, -⟩
    · cases excess with
      | nil => exact ⟨cs, [], by simpa using htext, by simp, by simpa using hwidth⟩
      | cons c excess => exact absurd htext (h low high c excess rest htail)
    · exact ⟨text, left, htext, hleft, hwidth⟩
  · rintro ⟨text, rest, htext, rfl, hwidth⟩
    exact ⟨text, rest ++ tail, htext, by rw [List.append_assoc], hwidth⟩

/-- A range that reaches into what follows a text ends there, with its bracket. -/
theorem IsRange.exists_bracket_behind {low high cs excess : List Char} {c : Char}
    (h : IsRange low high (cs ++ c :: excess)) : ∃ body, c :: excess = body ++ [']'] := by
  rcases h.exists_bracket with ⟨body, hbody⟩
  have hlast := congrArg List.getLast? hbody
  rw [List.getLast?_append_of_ne_nil _ (by simp)] at hlast
  exact List.getLast?_eq_some_iff.mp (by simpa using hlast)

/-- What follows a text and goes on like no word does not change the first symbol of this text, if
that is neither a phrase nor a range that reaches into it. -/
theorem read_append {c : Char} {cs tail : List Char} (hmark : c ≠ '"')
    (hstop : StopsAt isWordPart tail) (hrange : range? (cs ++ tail) = range? cs) :
    read c (cs ++ tail) = read c cs := by
  have hname : fieldName? (c :: (cs ++ tail)) = fieldName? (c :: cs) := by
    apply fieldName?_append (c :: cs)
    intro d hd
    exact not_namePart_of_not_wordPart (hstop d hd)
  have hword := takeWhile_append_of_stopsAt cs hstop
  rw [read, read, if_neg hmark, if_neg hmark, hname, hrange, hword]

/-! ## Blanks behind a text -/

/-- A blank is no mark, no backslash and no bracket. -/
theorem ne_of_isBlank {c : Char} (h : Text.isBlank c = true) : c ≠ '"' ∧ c ≠ '\\' ∧ c ≠ ']' := by
  refine ⟨?_, ?_, ?_⟩
  all_goals
    rintro rfl
    revert h
    decide

/-- Blanks stop every class without blanks. -/
theorem stopsAt_of_blanks {p : Char → Bool} {blanks : List Char}
    (h : ∀ c ∈ blanks, Text.isBlank c = true) (hp : ∀ c, Text.isBlank c = true → p c = false) :
    StopsAt p blanks := by
  intro c hc
  exact hp c (h c (List.mem_of_mem_head? hc))

/-- A phrase whose closing mark is missing runs to the end of the text. -/
theorem width_phraseFrom_of_blanks (value : List Char) (width : Nat) {blanks : List Char}
    (h : ∀ c ∈ blanks, Text.isBlank c = true) :
    (phraseFrom value width blanks).2 = width + blanks.length := by
  induction blanks generalizing value width with
  | nil => rfl
  | cons c blanks ih =>
    rcases ne_of_isBlank (h c List.mem_cons_self) with ⟨hmark, hslash, -⟩
    rw [phraseFrom, ih]
    · simp
      omega
    · intro d hd
      exact h d (List.mem_cons_of_mem _ hd)
    · intro d ds heq
      exact absurd heq hslash
    · exact hmark

/-- Blanks behind a text do not change its first phrase, or the phrase is not closed and runs to
the end of the text, with them and without them. -/
theorem phraseFrom_append_blanks (value : List Char) (width : Nat) (cs : List Char)
    {blanks : List Char} (h : ∀ c ∈ blanks, Text.isBlank c = true) :
    phraseFrom value width (cs ++ blanks) = phraseFrom value width cs ∨
      (phraseFrom value width cs).2 = width + cs.length ∧
        (phraseFrom value width (cs ++ blanks)).2 = width + (cs ++ blanks).length := by
  fun_induction phraseFrom value width cs with
  | case1 value width =>
    right
    exact ⟨rfl, width_phraseFrom_of_blanks value width h⟩
  | case2 value width c cs ih =>
    rw [List.cons_append, List.cons_append, phraseFrom]
    rcases ih with hsame | ⟨hshort, hlong⟩
    · left
      exact hsame
    · right
      simp only [List.length_cons]
      omega
  | case3 value width cs =>
    left
    simp [phraseFrom]
  | case4 value width c cs hslash hmark ih =>
    by_cases hlone : c = '\\' ∧ cs = []
    · -- A backslash at the very end protects the first blank.
      rcases hlone with ⟨rfl, rfl⟩
      cases blanks with
      | nil =>
        left
        rfl
      | cons d blanks =>
        right
        have hrest := width_phraseFrom_of_blanks (d :: value) (width + 2)
          fun e he => h e (List.mem_cons_of_mem _ he)
        refine ⟨rfl, ?_⟩
        rw [List.cons_append, List.nil_append, phraseFrom, hrest]
        simp
        omega
    · have hstep : phraseFrom value width (c :: (cs ++ blanks)) =
          phraseFrom (c :: value) (width + 1) (cs ++ blanks) := by
        rw [phraseFrom]
        · intro d ds hc heq
          cases cs with
          | nil => exact hlone ⟨hc, rfl⟩
          | cons e cs => exact hslash e cs hc rfl
        · exact hmark
      rw [List.cons_append, hstep]
      rcases ih with hsame | ⟨hshort, hlong⟩
      · left
        exact hsame
      · right
        simp only [List.length_cons]
        omega

/-- Blanks behind a text change no range at its start. -/
theorem range?_append_blanks (cs : List Char) {blanks : List Char}
    (h : ∀ c ∈ blanks, Text.isBlank c = true) : range? (cs ++ blanks) = range? cs := by
  apply range?_append
  intro low high c excess rest hblanks htext
  rcases htext.exists_bracket_behind with ⟨body, hbody⟩
  -- The closing bracket would stand among the blanks.
  have hblank := h ']' (by simp [hblanks, hbody])
  exact absurd rfl (ne_of_isBlank hblank).2.2

/-- Blanks behind a text do not change its first symbol, or this is a phrase that is not closed. -/
theorem read_append_blanks (c : Char) (cs : List Char) {blanks : List Char}
    (h : ∀ d ∈ blanks, Text.isBlank d = true) :
    read c (cs ++ blanks) = read c cs ∨
      ∃ value value', read c cs = (phrase value, cs.length + 1) ∧
        read c (cs ++ blanks) = (phrase value', (cs ++ blanks).length + 1) := by
  by_cases hmark : c = '"'
  · rcases phraseFrom_append_blanks [] 1 cs h with hsame | ⟨hshort, hlong⟩
    · left
      simp [read, hmark, hsame]
    · right
      rw [hmark, read_mark, read_mark, hshort, hlong, Nat.add_comm, Nat.add_comm 1]
      exact ⟨_, _, rfl, rfl⟩
  · left
    have hstop : StopsAt isWordPart blanks :=
      stopsAt_of_blanks h fun d hd => isWordPart_of_isBlank hd
    exact read_append hmark hstop (range?_append_blanks cs h)

/-- Blanks behind a text do not change the kinds of its symbols. -/
theorem scan_append_blanks (cs : List Char) {blanks : List Char}
    (h : ∀ c ∈ blanks, Text.isBlank c = true) :
    List.Forall₂ SameKind (scan (cs ++ blanks)) (scan cs) := by
  fun_induction scan cs with
  | case1 =>
    have hscan := scan_blanks_append h []
    rw [List.append_nil, scan_nil] at hscan
    rw [List.nil_append, hscan]
    exact List.Forall₂.nil
  | case2 c rest hblank ih =>
    rw [List.cons_append, scan_cons_of_blank hblank]
    exact ih
  | case3 c rest hblank ih =>
    rw [List.cons_append, scan_cons (by simpa using hblank)]
    rcases read_append_blanks c rest h with hsame | ⟨value, value', hshort, hlong⟩
    · have hwidth : (read c rest).2 - 1 ≤ rest.length := by
        have hle := width_le (by simpa using hblank) rest
        omega
      rw [hsame, List.drop_append_of_le_length hwidth]
      exact List.Forall₂.cons (SameKind.refl _) ih
    · rw [hshort, hlong, Nat.add_sub_cancel, Nat.add_sub_cancel, List.drop_length,
        List.drop_length, scan_nil]
      exact List.Forall₂.cons (SameKind.leaf rfl rfl) List.Forall₂.nil

/-- A text and its trimmed text have symbols of the same kinds. -/
theorem sameKind_scan_trim (raw : String) :
    List.Forall₂ SameKind (scan raw.toList) (scan (Text.trim raw).toList) := by
  rcases Text.exists_toList_eq_trim raw with ⟨lead, trail, hsplit, hlead, htrail⟩
  rw [hsplit, List.append_assoc, scan_blanks_append hlead]
  exact scan_append_blanks _ htrail

end Symbol
end TextSearch
