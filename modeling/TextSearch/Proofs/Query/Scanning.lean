import TextSearch.Query.Tree
import TextSearch.Proofs.Query.Spelling

/-!
# Scanning

The symbols of a text without their positions, and how the symbols of a text that is put together
follow from those of its parts.

Main results:

- Theorem `map_symbol_tokens`: the tokens of a query carry the symbols of its text.
- Theorems `scan_phrase`, `scan_field`, `scan_range` and `scan_word`: a spelled symbol is scanned
  as itself, and scanning goes on behind it.
- Theorem `spelled_of_mem_scan`: every symbol that is scanned from a text can be spelled.
-/

namespace TextSearch

namespace Symbol

/-! ## Reading one symbol -/

/-- Behind a mark, a phrase is read. -/
theorem read_mark (cs : List Char) :
    read '"' cs = (phrase (.ofList (phraseFrom [] 1 cs).1), (phraseFrom [] 1 cs).2) := by
  rw [read, if_pos rfl]

/-- A phrase is no wider than the text. -/
theorem width_phraseFrom_le (value : List Char) (width : Nat) (cs : List Char) :
    (phraseFrom value width cs).2 ≤ width + cs.length := by
  fun_induction phraseFrom value width cs <;> simp only [List.length_cons] <;> omega

/-- The rules by which a text that begins with `c` begins with a symbol, and the number of
characters that the symbol takes. -/
inductive Reads (c : Char) (cs : List Char) : Symbol × Nat → Prop
  | phrase :
    c = '"' → Reads c cs (phrase (.ofList (phraseFrom [] 1 cs).1), (phraseFrom [] 1 cs).2)
  | opening : c = '(' → Reads c cs (opening, 1)
  | closing : c = ')' → Reads c cs (closing, 1)
  | field {name rest : List Char} :
    IsName name → c :: cs = name ++ ':' :: rest →
    Reads c cs (field (.ofList name), name.length + 1)
  | range {low high text rest : List Char} :
    c = '[' → IsRange low high text → cs = text ++ rest →
    Reads c cs (range (.ofList low) (.ofList high), text.length + 1)
  | word {word rest : List Char} :
    IsWord word → c :: cs = word ++ rest → StopsAt isWordPart rest →
    Reads c cs (ofWord word, word.length)

/-- The symbol at a place that is not blank is read by one of the rules. -/
theorem reads_read {c : Char} (hblank : Text.isBlank c = false) (cs : List Char) :
    Reads c cs (read c cs) := by
  by_cases hmark : c = '"'
  · rw [hmark, read_mark]
    exact Reads.phrase rfl
  by_cases hopening : c = '('
  · rw [read, if_neg hmark, if_pos hopening]
    exact Reads.opening hopening
  by_cases hclosing : c = ')'
  · rw [read, if_neg hmark, if_neg hopening, if_pos hclosing]
    exact Reads.closing hclosing
  rw [read, if_neg hmark, if_neg hopening, if_neg hclosing]
  cases hname : fieldName? (c :: cs) with
  | some name =>
    rcases (fieldName?_eq_some_iff _ _).mp hname with ⟨hisName, rest, hsplit⟩
    exact Reads.field hisName hsplit
  | none =>
    dsimp only
    cases hrange : if c = '[' then range? cs else none with
    | some found =>
      rcases found with ⟨low, high, width⟩
      rw [Option.ite_none_right_eq_some] at hrange
      rcases (range?_eq_some_iff _ _ _ _).mp hrange.2 with ⟨text, rest, htext, hsplit, rfl⟩
      exact Reads.range hrange.1 htext hsplit
    | none =>
      have hsplit : c :: cs = c :: cs.takeWhile isWordPart ++ cs.dropWhile isWordPart := by
        rw [List.cons_append, List.takeWhile_append_dropWhile]
      have hstop := stopsAt_dropWhile isWordPart cs
      refine Reads.word ⟨⟨c, rfl, hmark⟩, ?_, ?_⟩ hsplit hstop
      · intro d hd
        rcases List.mem_cons.mp hd with rfl | hd
        · exact (isWordPart_iff d).mpr ⟨hblank, hopening, hclosing⟩
        · exact List.mem_takeWhile_imp hd
      · rw [hsplit, fieldName?_append] at hname
        · exact hname
        · intro d hd
          exact not_namePart_of_not_wordPart (hstop d hd)

/-- A symbol takes no more characters than there are. -/
theorem width_le {c : Char} (hblank : Text.isBlank c = false) (cs : List Char) :
    (read c cs).2 ≤ cs.length + 1 := by
  have hreads := reads_read hblank cs
  generalize read c cs = found at hreads ⊢
  cases hreads with
  | phrase =>
    have hle := width_phraseFrom_le [] 1 cs
    omega
  | opening => omega
  | closing => omega
  | @field name rest hname hsplit =>
    have hlength := congrArg List.length hsplit
    simp only [List.length_cons, List.length_append] at hlength
    omega
  | @range low high text rest hbracket htext hsplit =>
    rw [hsplit, List.length_append]
    omega
  | @word word rest hword hsplit hstop =>
    have hlength := congrArg List.length hsplit
    simp only [List.length_cons, List.length_append] at hlength
    omega

/-! ## Spelled symbols -/

/-- The symbol can stand in a text. -/
def Spelled : Symbol → Prop
  | term value => IsWord value.toList ∧ ofWord value.toList = term value
  | wildcard pattern => IsWord pattern.toList ∧ ofWord pattern.toList = wildcard pattern
  | field name => IsName name.toList
  | range low high => IsBound low.toList ∧ IsBound high.toList
  | _ => True

/-- The symbol that a word is read as is one that a text can spell. -/
theorem spelled_ofWord {word : List Char} (h : IsWord word) : (ofWord word).Spelled := by
  unfold ofWord
  split
  · trivial
  · split
    · trivial
    · split
      · trivial
      · rename_i hand hor hnot
        split
        · rename_i hwild
          refine ⟨by simpa using h, ?_⟩
          simp [ofWord, hand, hor, hnot, hwild]
        · rename_i hwild
          refine ⟨by simpa using h, ?_⟩
          simp [ofWord, hand, hor, hnot, hwild]

/-- Whatever stands at a place that is not blank is read as a symbol that can be spelled. -/
theorem spelled_read {c : Char} (hblank : Text.isBlank c = false) (cs : List Char) :
    (read c cs).1.Spelled := by
  have hreads := reads_read hblank cs
  generalize read c cs = found at hreads ⊢
  cases hreads with
  | field hname hsplit => simpa [Spelled] using hname
  | range hbracket htext hsplit => simpa [Spelled] using ⟨htext.isBound_low, htext.isBound_high⟩
  | word hword hsplit hstop => exact spelled_ofWord hword
  | _ => trivial

/-! ## Scanning -/

/-- The symbols of a text. -/
def scan (cs : List Char) : List Symbol :=
  match cs with
  | [] => []
  | c :: rest =>
    if Text.isBlank c then scan rest
    else (read c rest).1 :: scan (rest.drop ((read c rest).2 - 1))
  termination_by cs.length
  decreasing_by
    · simp
    · simp only [List.length_drop, List.length_cons]
      omega

@[simp]
theorem scan_nil : scan [] = [] := by
  rw [scan]

theorem scan_cons_of_blank {c : Char} (h : Text.isBlank c = true) (rest : List Char) :
    scan (c :: rest) = scan rest := by
  rw [scan, if_pos h]

/-- A character that is not blank begins a token, and the scan goes on behind it. -/
theorem scan_cons {c : Char} (h : Text.isBlank c = false) (rest : List Char) :
    scan (c :: rest) = (read c rest).1 :: scan (rest.drop ((read c rest).2 - 1)) := by
  rw [scan, if_neg (by simp [h])]

/-- Blanks before a text do not matter. -/
theorem scan_blanks_append {blanks : List Char} (h : ∀ c ∈ blanks, Text.isBlank c = true)
    (cs : List Char) : scan (blanks ++ cs) = scan cs := by
  induction blanks with
  | nil => rfl
  | cons c blanks ih =>
    rw [List.cons_append, scan_cons_of_blank (h c List.mem_cons_self)]
    exact ih fun d hd => h d (List.mem_cons_of_mem _ hd)

/-- The symbol that a text begins with, and then those of what follows. -/
theorem scan_of_read {c : Char} {xs tail : List Char} {symbol : Symbol}
    (hblank : Text.isBlank c = false) (h : read c (xs ++ tail) = (symbol, xs.length + 1)) :
    scan (c :: xs ++ tail) = symbol :: scan tail := by
  rw [List.cons_append, scan_cons hblank, h]
  simp

end Symbol

/-- The symbols of the tokens are those of the scan, whatever was found before and at whatever
offset. -/
theorem map_symbol_tokensFrom (found : List Token) (offset : Nat) (cs : List Char) :
    (tokensFrom found offset cs).map Token.symbol =
      (found.map Token.symbol).reverse ++ Symbol.scan cs := by
  fun_induction tokensFrom found offset cs with
  | case1 found offset => simp
  | case2 found offset c rest hblank ih => rw [ih, Symbol.scan_cons_of_blank hblank]
  | case3 found offset c rest hblank symbol width hread ih =>
    rw [ih, Symbol.scan_cons (by simpa using hblank), hread]
    simp

/-- The tokens of a query carry the symbols of its text. -/
theorem map_symbol_tokens (query : String) :
    (tokens query).map Token.symbol = Symbol.scan query.toList := by
  rw [tokens, map_symbol_tokensFrom]
  rfl

namespace Symbol

/-! ## Symbols that are spelled out -/

theorem scan_opening (tail : List Char) : scan ('(' :: tail) = opening :: scan tail := by
  have hread : read '(' ([] ++ tail) = (opening, 1) := by
    simp [read]
  exact scan_of_read (by decide) hread

theorem scan_closing (tail : List Char) : scan (')' :: tail) = closing :: scan tail := by
  have hread : read ')' ([] ++ tail) = (closing, 1) := by
    simp [read]
  exact scan_of_read (by decide) hread

/-- Reading a protected text gives the text back and ends at the mark behind it. -/
theorem phraseFrom_protect (value : List Char) (width : Nat) (cs tail : List Char) :
    phraseFrom value width (Query.protect cs ++ '"' :: tail) =
      (value.reverse ++ cs, width + (Query.protect cs).length + 1) := by
  induction cs generalizing value width with
  | nil => simp [phraseFrom]
  | cons c cs ih =>
    rw [Query.protect_cons]
    by_cases hprotected : c = '"' ∨ c = '\\'
    · rw [if_pos hprotected]
      simp only [List.cons_append, List.nil_append, phraseFrom, ih, List.length_cons]
      simp
      omega
    · rw [if_neg hprotected]
      rw [not_or] at hprotected
      rw [List.cons_append, List.nil_append, List.cons_append, phraseFrom, ih]
      · simp
        omega
      · intro d ds hslash
        exact absurd hslash hprotected.2
      · exact hprotected.1

/-- A protected text between marks is scanned as the phrase of the text. -/
theorem scan_phrase (value tail : List Char) :
    scan ('"' :: (Query.protect value ++ '"' :: tail)) =
      phrase (.ofList value) :: scan tail := by
  have hread : read '"' (Query.protect value ++ ['"'] ++ tail) =
      (phrase (.ofList value), (Query.protect value ++ ['"']).length + 1) := by
    rw [List.append_assoc, List.singleton_append]
    simp [read, phraseFrom_protect]
    omega
  have h := scan_of_read (by decide) hread
  simpa using h

/-- Neither a mark nor a parenthesis begins here. -/
structure IsPlainStart (c : Char) : Prop where
  not_blank : Text.isBlank c = false
  not_mark : c ≠ '"'
  not_opening : c ≠ '('
  not_closing : c ≠ ')'

theorem IsPlainStart.of_isNameStart {c : Char} (h : isNameStart c = true) : IsPlainStart c where
  not_blank := isBlank_of_isNamePart (isNamePart_of_isNameStart h)
  not_mark := by
    rintro rfl
    revert h
    decide
  not_opening := by
    rintro rfl
    revert h
    decide
  not_closing := by
    rintro rfl
    revert h
    decide

/-- A name before a colon is scanned as a field. -/
theorem scan_field {name : List Char} (h : IsName name) (tail : List Char) :
    scan (name ++ ':' :: tail) = field (.ofList name) :: scan tail := by
  rcases h.start with ⟨c, hc, hstart⟩
  rcases List.head?_eq_some_iff.mp hc with ⟨part, rfl⟩
  have hplain := IsPlainStart.of_isNameStart hstart
  have hname : fieldName? (c :: (part ++ [':'] ++ tail)) = some (c :: part) := by
    rw [fieldName?_eq_some_iff]
    exact ⟨h, tail, by simp⟩
  have hread : read c (part ++ [':'] ++ tail) =
      (field (.ofList (c :: part)), (part ++ [':']).length + 1) := by
    rw [read, if_neg hplain.not_mark, if_neg hplain.not_opening, if_neg hplain.not_closing, hname]
    simp
  have hscan := scan_of_read hplain.not_blank hread
  simpa using hscan

/-- A bracketed range is scanned as the range. -/
theorem scan_range {low high text : List Char} (h : IsRange low high text) (tail : List Char) :
    scan ('[' :: (text ++ tail)) = range (.ofList low) (.ofList high) :: scan tail := by
  have hrange : range? (text ++ tail) = some (low, high, text.length) := by
    rw [range?_eq_some_iff]
    exact ⟨text, tail, h, rfl, rfl⟩
  have hname : fieldName? ('[' :: (text ++ tail)) = none := by
    simp [fieldName?, show isNameStart '[' = false by decide]
  have hread : read '[' (text ++ tail) =
      (range (.ofList low) (.ofList high), text.length + 1) := by
    simp [read, hname, hrange]
  exact scan_of_read (by decide) hread

/-- A word that is neither a field nor a range is scanned whole. -/
theorem scan_word {word tail : List Char} (hword : IsWord word)
    (hname : fieldName? (word ++ tail) = none) (hstop : StopsAt isWordPart tail)
    (hrange : ∀ rest, word = '[' :: rest → range? (rest ++ tail) = none) :
    scan (word ++ tail) = ofWord word :: scan tail := by
  rcases hword.start with ⟨c, hc, hmark⟩
  rcases List.head?_eq_some_iff.mp hc with ⟨rest, rfl⟩
  obtain ⟨hblank, hopening, hclosing⟩ :=
    (isWordPart_iff c).mp (hword.parts c List.mem_cons_self)
  have hrest : (rest ++ tail).takeWhile isWordPart = rest := by
    have hcut := cut_append_of_stopsAt
      (fun d hd => hword.parts d (List.mem_cons_of_mem _ hd)) hstop
    exact (Prod.mk.inj hcut).1
  have hnone : (if c = '[' then range? (rest ++ tail) else none) = none := by
    split
    · rename_i hbracket
      exact hrange rest (by rw [hbracket])
    · rfl
  have hread : read c (rest ++ tail) = (ofWord (c :: rest), rest.length + 1) := by
    rw [List.cons_append] at hname
    rw [read, if_neg hmark, if_neg hopening, if_neg hclosing, hname, hnone, hrest]
    rfl
  exact scan_of_read hblank hread

/-- Every symbol that is scanned from a text can be spelled. -/
theorem spelled_of_mem_scan {cs : List Char} {symbol : Symbol} (h : symbol ∈ scan cs) :
    symbol.Spelled := by
  fun_induction scan cs with
  | case1 => simp at h
  | case2 c rest hblank ih => exact ih h
  | case3 c rest hblank ih =>
    rcases List.mem_cons.mp h with rfl | h
    · exact spelled_read (by simpa using hblank) rest
    · exact ih h

end Symbol
end TextSearch
