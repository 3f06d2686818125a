import TextSearch.Text.Characters
import TextSearch.Text.Terms
import Mathlib.Data.List.Infix

/-!
# Separated pieces of a text

The lower-case form is taken over a whole text, because a capital sigma looks at what stands around
it.  It never looks across a blank: a blank has no case and is not looked through.  So a text can be
cut at any blank, and the terms of its pieces are those of the whole.

Main results:

- Theorem `isAlphanumeric_of_isBlank`: no blank is a letter or a digit.
- Theorem `lowerFrom_append_cons`: the lower-case forms of both sides of a blank do not depend on
  each other.
- Theorems `terms_of_split` and `terms_append_space`: the terms of a text that is cut at a blank, or
  put together with a space, are those of its two parts.
- Theorem `of_mem_runs`: a run is a piece of the text without separators.
- Theorem `isAlphanumeric_of_mem_terms`: the terms of a text are letters and digits throughout.
- Theorem `terms_infix_of_standsIn`: the terms of a piece between blanks stand one after the other
  among the terms of the whole text.
-/

namespace TextSearch
namespace Text

/-! ## Blanks -/

/-- The blank characters by their code points. -/
def blankCodes : List Nat :=
  [0x9, 0xA, 0xB, 0xC, 0xD, 0x20, 0x85, 0xA0, 0x1680, 0x2000, 0x2001, 0x2002, 0x2003, 0x2004,
    0x2005, 0x2006, 0x2007, 0x2008, 0x2009, 0x200A, 0x2028, 0x2029, 0x202F, 0x205F, 0x3000]

/-- The code of each blank is listed. -/
theorem mem_blankCodes {c : Char} (h : isBlank c = true) : c.toNat ∈ blankCodes := by
  rcases exists_range_of_inRanges h with ⟨range, hrange, hlow, hhigh⟩
  simp only [blankRanges, List.mem_cons, List.not_mem_nil, or_false] at hrange
  simp only [blankCodes, List.mem_cons, List.not_mem_nil, or_false]
  rcases hrange with rfl | rfl | rfl | rfl | rfl | rfl | rfl | rfl | rfl | rfl <;>
    simp only at hlow hhigh <;> omega

/-- What the tables of characters say of the blanks. -/
theorem tables_of_mem_blankCodes : ∀ n ∈ blankCodes,
    (inRanges alphabeticRanges n = false ∧ inRanges numericRanges n = false) ∧
      (inRanges casedRanges n = false ∧ inRanges caseIgnorableRanges n = false) ∧
        shifted lowercaseShifts n = n ∧ n ≠ 'Σ'.toNat ∧ n ≠ 'İ'.toNat := by
  decide +kernel

/-- No blank is a letter or a digit. -/
theorem isAlphanumeric_of_isBlank {c : Char} (h : isBlank c = true) :
    isAlphanumeric c = false := by
  obtain ⟨⟨halphabetic, hnumeric⟩, -⟩ := tables_of_mem_blankCodes c.toNat (mem_blankCodes h)
  rw [isAlphanumeric, isAlphabetic, isNumeric, halphabetic, hnumeric]
  rfl

/-- No blank has case, and none is looked through. -/
theorem caseless_of_isBlank {c : Char} (h : isBlank c = true) :
    isCased c = false ∧ isCaseIgnorable c = false :=
  (tables_of_mem_blankCodes c.toNat (mem_blankCodes h)).2.1

/-- A blank is its own lower-case form, wherever it stands. -/
theorem lowerAt_of_isBlank {c : Char} (h : isBlank c = true) (before : Bool)
    (after : List Char) : lowerAt before c after = [c] := by
  obtain ⟨-, -, hshifted, hsigma, hdotted⟩ :=
    tables_of_mem_blankCodes c.toNat (mem_blankCodes h)
  have hneSigma : c ≠ 'Σ' := by
    rintro rfl
    exact hsigma rfl
  have hneDotted : c ≠ 'İ' := by
    rintro rfl
    exact hdotted rfl
  rw [lowerAt, if_neg hneSigma, lowerChar, if_neg hneDotted, hshifted, Char.ofNat_toNat]

/-! ## Cutting at a blank -/

/-- What stands behind a blank does not count as near. -/
theorem casedNear_append_cons {blank : Char} (h : isBlank blank = true) (xs ys : List Char) :
    casedNear (xs ++ blank :: ys) = casedNear xs := by
  rcases caseless_of_isBlank h with ⟨hcased, hignorable⟩
  induction xs with
  | nil => simp [casedNear, hcased, hignorable]
  | cons c xs ih => simp only [List.cons_append, casedNear, ih]

/-- The lower-case forms of both sides of a blank do not depend on each other. -/
theorem lowerFrom_append_cons {blank : Char} (h : isBlank blank = true) (before : Bool)
    (xs ys : List Char) :
    lowerFrom before [] (xs ++ blank :: ys) =
      lowerFrom before [] xs ++ blank :: lowerFrom false [] ys := by
  induction xs generalizing before with
  | nil =>
    rcases caseless_of_isBlank h with ⟨hcased, hignorable⟩
    rw [List.nil_append, lowerFrom_cons, lowerAt_of_isBlank h, casedAfter, hignorable, hcased]
    simp [lowerFrom]
  | cons c xs ih =>
    have hlower : lowerAt before c (xs ++ blank :: ys) = lowerAt before c xs := by
      rw [lowerAt, lowerAt, casedNear_append_cons h]
    rw [List.cons_append, lowerFrom_cons, lowerFrom_cons, hlower, ih, List.append_assoc]

/-- Lower-casing goes through the characters with none before the first. -/
theorem toList_lowercase (text : String) :
    (lowercase text).toList = lowerFrom false [] text.toList := by
  rw [lowercase, String.toList_ofList]

/-- The terms of a text that is cut at a blank are those of its two parts. -/
theorem terms_of_split {blank : Char} (h : isBlank blank = true) {text : String}
    {xs ys : List Char} (hsplit : text.toList = xs ++ blank :: ys) :
    terms text = terms (.ofList xs) ++ terms (.ofList ys) := by
  simp only [terms, toList_lowercase, hsplit, String.toList_ofList, lowerFrom_append_cons h,
    runs_append_cons (isAlphanumeric_of_isBlank h), List.map_append]

/-- The terms of two texts with a space between them are those of the one and those of the other. -/
theorem terms_append_space (a b : String) : terms (a ++ " " ++ b) = terms a ++ terms b := by
  have hblank : isBlank ' ' = true := by decide
  have hsplit : (a ++ " " ++ b).toList = a.toList ++ ' ' :: b.toList := by
    simp
  rw [terms_of_split hblank hsplit, String.ofList_toList, String.ofList_toList]

/-! ## Runs -/

/-- Letters and digits without a separator are one run. -/
theorem runs_of_isAlphanumeric {cs : List Char} (hne : cs ≠ [])
    (h : ∀ c ∈ cs, isAlphanumeric c = true) : runs cs = [cs] := by
  unfold runs
  rw [List.splitOnP_eq_singleton (by simpa using h)]
  simp [hne]

/-- Every text is put together from texts without separators by cutting at separators. -/
theorem separator_induction {motive : List Char → Prop}
    (whole : ∀ cs, (∀ c ∈ cs, isAlphanumeric c = true) → motive cs)
    (cut : ∀ xs separator ys, isAlphanumeric separator = false → motive xs → motive ys →
      motive (xs ++ separator :: ys)) (cs : List Char) : motive cs := by
  by_cases hall : ∀ c ∈ cs, isAlphanumeric c = true
  · exact whole cs hall
  · rw [not_forall] at hall
    rcases hall with ⟨separator, hseparator⟩
    rw [Classical.not_imp, Bool.not_eq_true] at hseparator
    rcases List.append_of_mem hseparator.1 with ⟨xs, ys, hsplit⟩
    rw [hsplit]
    exact cut xs separator ys hseparator.2 (separator_induction whole cut xs)
      (separator_induction whole cut ys)
  termination_by cs.length
  decreasing_by
    all_goals
      rw [hsplit, List.length_append, List.length_cons]
      omega

/-- A run is a piece of the text, and holds nothing but letters and digits. -/
theorem of_mem_runs {cs run : List Char} (h : run ∈ runs cs) :
    run <:+: cs ∧ ∀ c ∈ run, isAlphanumeric c = true := by
  induction cs using separator_induction with
  | whole cs hall =>
    cases cs with
    | nil => simp at h
    | cons c cs =>
      rw [runs_of_isAlphanumeric (by simp) hall, List.mem_singleton] at h
      rw [h]
      exact ⟨List.infix_rfl, hall⟩
  | cut xs separator ys hseparator ihFront ihBack =>
    rw [runs_append_cons hseparator, List.mem_append] at h
    rcases h with h | h
    · rcases ihFront h with ⟨hpiece, hall⟩
      exact ⟨hpiece.trans (List.prefix_append _ _).isInfix, hall⟩
    · rcases ihBack h with ⟨hpiece, hall⟩
      exact ⟨(List.infix_cons hpiece).trans (List.suffix_append _ _).isInfix, hall⟩

/-- The terms of a text are letters and digits throughout. -/
theorem isAlphanumeric_of_mem_terms {text term : String} (h : term ∈ terms text) :
    ∀ c ∈ term.toList, isAlphanumeric c = true := by
  rcases List.mem_map.mp h with ⟨run, hrun, rfl⟩
  rw [String.toList_ofList]
  exact (of_mem_runs hrun).2

/-- A text whose lower-case form is letters and digits is one term. -/
theorem terms_of_isAlphanumeric {text : String} (hne : (lowercase text).toList ≠ [])
    (h : ∀ c ∈ (lowercase text).toList, isAlphanumeric c = true) :
    terms text = [lowercase text] := by
  rw [terms, runs_of_isAlphanumeric hne h, List.map_singleton, String.ofList_toList]

/-! ## Pieces -/

/-- The piece stands in the text between separators, or at an end of the text. -/
def StandsIn (isSeparator : Char → Bool) (piece text : String) : Prop :=
  ∃ before behind : List Char, text.toList = before ++ (piece.toList ++ behind) ∧
    before.getLast?.all isSeparator = true ∧ behind.head?.all isSeparator = true

/-- The terms of a piece between blanks stand one after the other among those of the text. -/
theorem terms_infix_of_standsIn {isSeparator : Char → Bool}
    (hblank : ∀ c, isSeparator c = true → isBlank c = true) {piece text : String}
    (h : StandsIn isSeparator piece text) : terms piece <:+: terms text := by
  obtain ⟨before, behind, hsplit, hbefore, hbehind⟩ := h
  have hfront : terms (.ofList (piece.toList ++ behind)) <:+ terms text := by
    rcases List.eq_nil_or_concat before with rfl | ⟨xs, c, rfl⟩
    · rw [List.nil_append] at hsplit
      rw [← hsplit, String.ofList_toList]
    · have hc := hblank c ((Option.all_eq_true _ _).mp hbefore c (by simp))
      rw [List.concat_eq_append, List.append_assoc, List.singleton_append] at hsplit
      rw [terms_of_split hc hsplit]
      exact List.suffix_append _ _
  have hback : terms piece <+: terms (.ofList (piece.toList ++ behind)) := by
    cases behind with
    | nil => rw [List.append_nil, String.ofList_toList]
    | cons c ys =>
      have hc := hblank c ((Option.all_eq_true _ _).mp hbehind c rfl)
      rw [terms_of_split hc (String.toList_ofList), String.ofList_toList]
      exact List.prefix_append _ _
  exact hback.isInfix.trans hfront.isInfix

end Text
end TextSearch
