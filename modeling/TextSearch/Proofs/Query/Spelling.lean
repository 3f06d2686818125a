import TextSearch.Query.Token
import TextSearch.Proofs.Text.Separation
import Mathlib.Data.List.TakeWhile
import Mathlib.Tactic.ByContra
import Mathlib.Tactic.Tauto

/-!
# Spelling of symbols

What the rules for single symbols accept, said without the order in which they look at the
characters: a text begins with a field name, with the bounds of a range or with the inside of a
phrase exactly when it can be split in a certain way.

Main results:

- Theorem `isBlank_of_isNamePart`: a name holds no blank.
- Theorem `fieldName?_eq_some_iff`: a text begins with a field exactly when it begins with a name
  and a colon.
- Theorem `range?_eq_some_iff`: a text goes on as a range exactly when it begins with two bounds,
  the keyword between them and a closing bracket.
- Theorem `fieldName?_append`: a text that follows a word and does not begin like a name does not
  change whether the word begins with a field.
-/

namespace TextSearch

namespace Symbol

/-! ## Characters -/

/-- What a name may begin with, it may have anywhere. -/
theorem isNamePart_of_isNameStart {c : Char} (h : isNameStart c = true) :
    isNamePart c = true := by
  rw [isNameStart, Bool.or_eq_true] at h
  rw [isNamePart, Text.isAlphanumeric, Bool.or_eq_true, Bool.or_eq_true]
  tauto

/-- A name holds no blank. -/
theorem isBlank_of_isNamePart {c : Char} (h : isNamePart c = true) : Text.isBlank c = false := by
  by_contra hblank
  rw [Bool.not_eq_false] at hblank
  rw [isNamePart, Text.isAlphanumeric_of_isBlank hblank, Bool.false_or, beq_iff_eq] at h
  rw [h] at hblank
  revert hblank
  decide

/-- A word holds neither blanks nor parentheses. -/
theorem isWordPart_iff (c : Char) :
    isWordPart c = true ↔ Text.isBlank c = false ∧ c ≠ '(' ∧ c ≠ ')' := by
  simp [isWordPart, isParenthesis]

/-- No blank is part of a word. -/
theorem isWordPart_of_isBlank {c : Char} (h : Text.isBlank c = true) : isWordPart c = false := by
  simp [isWordPart, h]

/-- A character at which a word ends is neither of a name nor a colon. -/
theorem not_namePart_of_not_wordPart {c : Char} (h : isWordPart c = false) :
    (isNamePart c || c == ':') = false := by
  rw [← Bool.not_eq_true, isWordPart_iff] at h
  rw [Bool.or_eq_false_iff]
  constructor
  · by_contra hpart
    rw [Bool.not_eq_false] at hpart
    apply h
    refine ⟨isBlank_of_isNamePart hpart, ?_, ?_⟩
    · rintro rfl
      revert hpart
      decide
    · rintro rfl
      revert hpart
      decide
  · rw [beq_eq_false_iff_ne]
    rintro rfl
    revert h
    decide

/-- A bound may have anything but blanks and the closing bracket. -/
theorem isBoundPart_iff (c : Char) :
    isBoundPart c = true ↔ Text.isBlank c = false ∧ c ≠ ']' := by
  simp [isBoundPart]

/-! ## Cutting -/

/-- No character of the class follows. -/
def StopsAt (p : Char → Bool) (cs : List Char) : Prop :=
  ∀ c ∈ cs.head?, p c = false

theorem stopsAt_nil (p : Char → Bool) : StopsAt p [] := by
  intro c h
  simp at h

theorem stopsAt_cons {p : Char → Bool} {c : Char} (cs : List Char) (h : p c = false) :
    StopsAt p (c :: cs) := by
  intro d hd
  rw [List.head?_cons, Option.mem_some_iff] at hd
  rw [← hd]
  exact h

/-- A text stops where a part of it that is not empty and outside the class begins. -/
theorem stopsAt_append {p : Char → Bool} {xs : List Char} (ys : List Char) (hne : xs ≠ [])
    (h : ∀ c ∈ xs, p c = false) : StopsAt p (xs ++ ys) := by
  cases xs with
  | nil => contradiction
  | cons c xs => exact stopsAt_cons _ (h c List.mem_cons_self)

/-- What is left behind a run stops it. -/
theorem stopsAt_dropWhile (p : Char → Bool) (cs : List Char) : StopsAt p (cs.dropWhile p) := by
  intro c h
  have hnot := List.head?_dropWhile_not p cs
  rw [Option.mem_def] at h
  rw [h] at hnot
  exact hnot

theorem takeWhile_of_stopsAt {p : Char → Bool} {cs : List Char} (h : StopsAt p cs) :
    cs.takeWhile p = [] := by
  cases cs with
  | nil => rfl
  | cons c cs => rw [List.takeWhile_cons_of_neg (by simpa using h c rfl)]

theorem dropWhile_of_stopsAt {p : Char → Bool} {cs : List Char} (h : StopsAt p cs) :
    cs.dropWhile p = cs := by
  cases cs with
  | nil => rfl
  | cons c cs => rw [List.dropWhile_cons_of_neg (by simpa using h c rfl)]

/-- A cut takes exactly the characters of the class that stand before one of another class. -/
theorem cut_append_of_stopsAt {p : Char → Bool} {xs ys : List Char} (hxs : ∀ c ∈ xs, p c = true)
    (hys : StopsAt p ys) : cut p (xs ++ ys) = (xs, ys) := by
  rw [cut, List.takeWhile_append_of_pos hxs, List.dropWhile_append_of_pos hxs,
    takeWhile_of_stopsAt hys, dropWhile_of_stopsAt hys, List.append_nil]

/-- The two parts of a cut join to the whole, and the first is of the class. -/
theorem of_cut_eq {p : Char → Bool} {cs xs ys : List Char} (h : cut p cs = (xs, ys)) :
    cs = xs ++ ys ∧ ∀ c ∈ xs, p c = true := by
  rcases Prod.mk.inj h with ⟨rfl, rfl⟩
  constructor
  · rw [List.takeWhile_append_dropWhile]
  · intro c hc
    exact List.mem_takeWhile_imp hc

/-- A text can be split in one way only into characters of a class and what does not go on so. -/
theorem split_unique {p : Char → Bool} {xs ys xs' ys' : List Char} (h : xs ++ ys = xs' ++ ys')
    (hxs : ∀ c ∈ xs, p c = true) (hys : StopsAt p ys)
    (hxs' : ∀ c ∈ xs', p c = true) (hys' : StopsAt p ys') : xs = xs' ∧ ys = ys' := by
  have hcut : (xs, ys) = (xs', ys') := by
    rw [← cut_append_of_stopsAt hxs hys, h, cut_append_of_stopsAt hxs' hys']
  exact Prod.mk.inj hcut

/-! ## Field names -/

/-- The name of a field. -/
structure IsName (name : List Char) : Prop where
  start : ∃ c ∈ name.head?, isNameStart c = true
  parts : ∀ c ∈ name, isNamePart c = true

/-- A text begins with a field exactly when it begins with a name and a colon. -/
theorem fieldName?_eq_some_iff (cs name : List Char) :
    fieldName? cs = some name ↔ IsName name ∧ ∃ rest, cs = name ++ ':' :: rest := by
  constructor
  · intro h
    cases cs with
    | nil => simp [fieldName?] at h
    | cons c rest =>
      simp only [fieldName?, cut, Option.ite_none_right_eq_some, Bool.and_eq_true, beq_iff_eq,
        Option.some.injEq] at h
      rcases h with ⟨⟨hstart, hcolon⟩, rfl⟩
      rcases List.head?_eq_some_iff.mp hcolon with ⟨after, hafter⟩
      refine ⟨⟨⟨c, rfl, hstart⟩, ?_⟩, after, ?_⟩
      · intro d hd
        rcases List.mem_cons.mp hd with rfl | hd
        · exact isNamePart_of_isNameStart hstart
        · exact List.mem_takeWhile_imp hd
      · rw [List.cons_append, ← hafter, List.takeWhile_append_dropWhile]
  · rintro ⟨hname, rest, rfl⟩
    rcases hname.start with ⟨c, hc, hstart⟩
    rcases List.head?_eq_some_iff.mp hc with ⟨part, rfl⟩
    have hcut : cut isNamePart (part ++ ':' :: rest) = (part, ':' :: rest) := by
      apply cut_append_of_stopsAt
      · intro d hd
        exact hname.parts d (List.mem_cons_of_mem _ hd)
      · exact stopsAt_cons rest (by decide)
    simp [fieldName?, hcut, hstart]

/-- What follows a word and goes on neither like a name nor with a colon does not change whether
the word begins with a field. -/
theorem fieldName?_append (word : List Char) {tail : List Char}
    (htail : StopsAt (fun c => isNamePart c || c == ':') tail) :
    fieldName? (word ++ tail) = fieldName? word := by
  apply Option.ext
  intro name
  rw [fieldName?_eq_some_iff, fieldName?_eq_some_iff]
  apply and_congr_right
  intro hname
  constructor
  · rintro ⟨rest, hrest⟩
    rw [List.append_cons, List.append_eq_append_iff] at hrest
    rcases hrest with ⟨excess, hexcess, htailEq⟩ | ⟨left, hleft, -⟩
    · cases excess with
      | nil => exact ⟨[], by simpa using hexcess.symm⟩
      | cons c excess =>
        -- The field would reach into the tail, which does not go on like one.
        have hstop := htail c (by simp [htailEq])
        have hmem : c ∈ name ++ [':'] := by simp [hexcess]
        rw [Bool.or_eq_false_iff] at hstop
        rcases List.mem_append.mp hmem with hmem | hmem
        · rw [hname.parts c hmem] at hstop
          simp at hstop
        · rw [List.mem_singleton.mp hmem] at hstop
          simp at hstop
    · exact ⟨left, by rw [hleft, ← List.append_cons]⟩
  · rintro ⟨rest, rfl⟩
    exact ⟨rest ++ tail, by rw [List.append_assoc, List.cons_append]⟩

/-! ## Words -/

/-- A word, wherever it stands, as long as it does not begin like a field. -/
structure IsWord (word : List Char) : Prop where
  start : ∃ c ∈ word.head?, c ≠ '"'
  parts : ∀ c ∈ word, isWordPart c = true
  not_field : fieldName? word = none

/-! ## Ranges -/

/-- A bound of a range. -/
structure IsBound (bound : List Char) : Prop where
  ne_nil : bound ≠ []
  parts : ∀ c ∈ bound, isBoundPart c = true

/-- The text of a range, from behind its opening bracket up to and with its closing bracket. -/
structure IsRange (low high text : List Char) : Prop where
  isBound_low : IsBound low
  isBound_high : IsBound high
  split : ∃ gap₁ gap₂ keyword gap₃ gap₄ : List Char,
    text = gap₁ ++ (low ++ (gap₂ ++ (keyword ++ (gap₃ ++ (high ++ (gap₄ ++ [']'])))))) ∧
    (∀ gap ∈ [gap₁, gap₂, gap₃, gap₄], ∀ c ∈ gap, Text.isBlank c = true) ∧
    gap₂ ≠ [] ∧ gap₃ ≠ [] ∧ isKeyword "to" keyword = true

/-- A range ends with its bracket. -/
theorem IsRange.exists_bracket {low high text : List Char} (h : IsRange low high text) :
    ∃ body, text = body ++ [']'] := by
  rcases h.split with ⟨gap₁, gap₂, keyword, gap₃, gap₄, rfl, -⟩
  exact ⟨gap₁ ++ low ++ gap₂ ++ keyword ++ gap₃ ++ high ++ gap₄, by simp⟩

/-- A range has a blank in it. -/
theorem IsRange.exists_blank {low high text : List Char} (h : IsRange low high text) :
    ∃ c ∈ text, Text.isBlank c = true := by
  obtain ⟨gap₁, gap₂, keyword, gap₃, gap₄, rfl, hgaps, hne₂, -⟩ := h.split
  rcases List.exists_mem_of_ne_nil _ hne₂ with ⟨c, hc⟩
  exact ⟨c, by simp [hc], hgaps gap₂ (by simp) c hc⟩

/-- The letters of the keyword are a letter T and a letter O. -/
theorem toLower_of_mem_keyword {keyword : List Char} (h : isKeyword "to" keyword = true)
    {c : Char} (hc : c ∈ keyword) : c.toLower = 't' ∨ c.toLower = 'o' := by
  rw [isKeyword, beq_iff_eq] at h
  have hmem : c.toLower ∈ keyword.map Char.toLower := List.mem_map_of_mem hc
  rw [h] at hmem
  simpa using hmem

/-- The keyword of a range could be a bound itself. -/
theorem isBound_keyword {keyword : List Char} (h : isKeyword "to" keyword = true) :
    IsBound keyword where
  ne_nil := by
    intro hnil
    rw [hnil] at h
    revert h
    decide
  parts := by
    intro c hc
    rw [isBoundPart_iff]
    have hletter := toLower_of_mem_keyword h hc
    constructor
    · by_contra hblank
      rw [Bool.not_eq_false] at hblank
      have hcodes : ∀ n ∈ Text.blankCodes, (Char.ofNat n).toLower ≠ 't' ∧
          (Char.ofNat n).toLower ≠ 'o' := by
        decide
      have hnot := hcodes c.toNat (Text.mem_blankCodes hblank)
      rw [Char.ofNat_toNat] at hnot
      tauto
    · rintro rfl
      revert hletter
      decide

/-- Before a bound, the blanks end. -/
theorem cut_gap {gap bound : List Char} (hgap : ∀ c ∈ gap, Text.isBlank c = true)
    (hbound : IsBound bound) (ys : List Char) :
    cut Text.isBlank (gap ++ (bound ++ ys)) = (gap, bound ++ ys) := by
  apply cut_append_of_stopsAt hgap
  apply stopsAt_append ys hbound.ne_nil
  intro c hc
  exact ((isBoundPart_iff c).mp (hbound.parts c hc)).1

/-- Before a blank, the bound ends. -/
theorem cut_bound {bound gap : List Char} (hbound : IsBound bound) (hne : gap ≠ [])
    (hgap : ∀ c ∈ gap, Text.isBlank c = true) (ys : List Char) :
    cut isBoundPart (bound ++ (gap ++ ys)) = (bound, gap ++ ys) := by
  apply cut_append_of_stopsAt hbound.parts
  apply stopsAt_append ys hne
  intro c hc
  simp [isBoundPart, hgap c hc]

/-- What is taken for a range has the text of one. -/
theorem isRange_of_range? {cs low high : List Char} {width : Nat}
    (h : range? cs = some (low, high, width)) :
    ∃ text rest, IsRange low high text ∧ cs = text ++ rest ∧ width = text.length := by
  unfold range? at h
  rcases hcut₁ : cut Text.isBlank cs with ⟨gap₁, cs₁⟩
  rcases hcut₂ : cut isBoundPart cs₁ with ⟨low', cs₂⟩
  rcases hcut₃ : cut Text.isBlank cs₂ with ⟨gap₂, cs₃⟩
  rcases hcut₄ : cut isBoundPart cs₃ with ⟨keyword, cs₄⟩
  rcases hcut₅ : cut Text.isBlank cs₄ with ⟨gap₃, cs₅⟩
  rcases hcut₆ : cut isBoundPart cs₅ with ⟨high', cs₆⟩
  rcases hcut₇ : cut Text.isBlank cs₆ with ⟨gap₄, cs₇⟩
  simp only [hcut₁, hcut₂, hcut₃, hcut₄, hcut₅, hcut₆, hcut₇, Option.ite_none_right_eq_some,
    Bool.and_eq_true, Bool.not_eq_true', List.isEmpty_eq_false_iff, beq_iff_eq,
    Option.some.injEq, Prod.mk.injEq] at h
  rcases h with ⟨⟨⟨⟨⟨⟨hlow, hgap₂⟩, hkeyword⟩, hgap₃⟩, hhigh⟩, hclose⟩, rfl, rfl, rfl⟩
  rcases of_cut_eq hcut₁ with ⟨rfl, hall₁⟩
  rcases of_cut_eq hcut₂ with ⟨rfl, hall₂⟩
  rcases of_cut_eq hcut₃ with ⟨rfl, hall₃⟩
  rcases of_cut_eq hcut₄ with ⟨rfl, hall₄⟩
  rcases of_cut_eq hcut₅ with ⟨rfl, hall₅⟩
  rcases of_cut_eq hcut₆ with ⟨rfl, hall₆⟩
  rcases of_cut_eq hcut₇ with ⟨rfl, hall₇⟩
  rcases List.head?_eq_some_iff.mp hclose with ⟨rest, rfl⟩
  refine ⟨_, rest, ⟨⟨hlow, hall₂⟩, ⟨hhigh, hall₆⟩, gap₁, gap₂, keyword, gap₃, gap₄, rfl, ?_,
    hgap₂, hgap₃, hkeyword⟩, ?_, ?_⟩
  · simp only [List.forall_mem_cons]
    exact ⟨hall₁, hall₃, hall₅, hall₇, by simp⟩
  · simp
  · simp
    omega

/-- The text of a range is taken for one, whatever stands behind. -/
theorem range?_of_isRange {low high text : List Char} (h : IsRange low high text)
    (rest : List Char) : range? (text ++ rest) = some (low, high, text.length) := by
  obtain ⟨hlow, hhigh, gap₁, gap₂, keyword, gap₃, gap₄, rfl, hgaps, hne₂, hne₃, hkeyword⟩ := h
  simp only [List.forall_mem_cons] at hgaps
  rcases hgaps with ⟨hgap₁, hgap₂, hgap₃, hgap₄, -⟩
  have hbracket : cut Text.isBlank (gap₄ ++ ']' :: rest) = (gap₄, ']' :: rest) :=
    cut_append_of_stopsAt hgap₄ (stopsAt_cons rest (by decide))
  have hhighCut : cut isBoundPart (high ++ (gap₄ ++ ']' :: rest)) =
      (high, gap₄ ++ ']' :: rest) := by
    apply cut_append_of_stopsAt hhigh.parts
    cases gap₄ with
    | nil => exact stopsAt_cons rest (by decide)
    | cons c gap₄ => exact stopsAt_cons _ (by simp [isBoundPart, hgap₄ c List.mem_cons_self])
  simp only [range?, List.append_assoc, List.cons_append, List.nil_append,
    cut_gap hgap₁ hlow, cut_bound hlow hne₂ hgap₂, cut_gap hgap₂ (isBound_keyword hkeyword),
    cut_bound (isBound_keyword hkeyword) hne₃ hgap₃, cut_gap hgap₃ hhigh, hhighCut, hbracket]
  have hlowNe := hlow.ne_nil
  have hhighNe := hhigh.ne_nil
  simp [hlowNe, hhighNe, hne₂, hne₃, hkeyword]
  omega

/-- A text goes on as a range exactly when it begins with the text of one. -/
theorem range?_eq_some_iff (cs low high : List Char) (width : Nat) :
    range? cs = some (low, high, width) ↔
      ∃ text rest, IsRange low high text ∧ cs = text ++ rest ∧ width = text.length := by
  constructor
  · exact isRange_of_range?
  · rintro ⟨text, rest, htext, rfl, rfl⟩
    exact range?_of_isRange htext rest

end Symbol
end TextSearch
