import TextSearch.Text.Terms

/-!
# What lower-casing makes of a text

Lower-casing makes no ASCII character but a letter, and only from letters.  So what stands in front
of a colon in a lower-case text, if it is ASCII letters, was written with letters, and the colon was
written too.

Main results:

- Theorem `eq_or_letters_of_lowerAt`: a character whose lower-case form begins with an ASCII
  character is that character, or both are letters.
- Theorem `exists_split_of_lowerFrom`: a text whose lower-case form begins with ASCII letters and a
  colon begins with letters and a colon itself.
-/

namespace TextSearch
namespace Text

/-! ## Shifts -/

namespace Shift

/-- The code points that a shift moves. -/
def points (shift : Shift) : List Nat :=
  (List.range ((shift.last - shift.first) / shift.step + 1)).map fun i =>
    shift.first + i * shift.step

/-- What lies on the steps of a shift is one of its points. -/
theorem mem_points {shift : Shift} {n : Nat} (hfirst : shift.first ≤ n) (hlast : n ≤ shift.last)
    (hstep : (n - shift.first) % shift.step = 0) : n ∈ shift.points := by
  rw [points, List.mem_map]
  refine ⟨(n - shift.first) / shift.step, ?_, ?_⟩
  · rw [List.mem_range, Nat.lt_succ_iff]
    exact Nat.div_le_div_right (Nat.sub_le_sub_right hlast _)
  · rw [Nat.div_mul_cancel (Nat.dvd_of_mod_eq_zero hstep)]
    omega

/-- The points of a shift lie on its steps, within its ends. -/
theorem of_mem_points {shift : Shift} {n : Nat} (h : n ∈ shift.points) :
    shift.first ≤ n ∧ n - shift.first ≤ shift.last - shift.first ∧
      (n - shift.first) % shift.step = 0 := by
  rcases List.mem_map.mp h with ⟨i, hi, rfl⟩
  rw [List.mem_range, Nat.lt_succ_iff] at hi
  rw [Nat.add_sub_cancel_left]
  refine ⟨Nat.le_add_right _ _, ?_, Nat.mul_mod_left _ _⟩
  exact Nat.le_trans (Nat.mul_le_mul_right _ hi) (Nat.div_mul_le_self _ _)

end Shift

/-- A code point that is not its own image is moved by one of the shifts. -/
theorem exists_shift_of_shifted_ne {shifts : List Shift} {n : Nat} (h : shifted shifts n ≠ n) :
    ∃ shift ∈ shifts, n ∈ shift.points ∧ shifted shifts n = shift.image + (n - shift.first) := by
  induction shifts with
  | nil => exact absurd rfl h
  | cons shift rest ih =>
    rw [shifted] at h ⊢
    split at h
    · contradiction
    · rename_i hfirst
      rw [if_neg hfirst]
      split at h
      · rename_i hlast
        rw [if_pos hlast]
        split at h
        · rename_i hstep
          rw [if_pos hstep]
          exact ⟨shift, List.mem_cons_self,
            Shift.mem_points (Nat.le_of_not_lt hfirst) hlast hstep, rfl⟩
        · contradiction
      · rename_i hlast
        rw [if_neg hlast]
        rcases ih h with ⟨found, hfound, hpoint⟩
        exact ⟨found, List.mem_cons_of_mem _ hfound, hpoint⟩

/-- A code point whose lower-case form is another one, in ASCII, is a letter, and so is its
lower-case form. -/
theorem letters_of_shifted_ne {n : Nat} (h : shifted lowercaseShifts n ≠ n)
    (hascii : shifted lowercaseShifts n < 0x80) :
    inRanges alphabeticRanges n = true ∧
      inRanges alphabeticRanges (shifted lowercaseShifts n) = true := by
  have htable : ∀ shift ∈ lowercaseShifts, 0x80 ≤ shift.image ∨ ∀ n ∈ shift.points,
      inRanges alphabeticRanges n = true ∧
        inRanges alphabeticRanges (shift.image + (n - shift.first)) = true := by
    decide +kernel
  rcases exists_shift_of_shifted_ne h with ⟨shift, hshift, hpoint, himage⟩
  rw [himage] at hascii ⊢
  rcases htable shift hshift with hbeyond | hletters
  · omega
  · exact hletters n hpoint

/-! ## Characters -/

/-- Only the zero character stands for numbers that are no code points. -/
theorem eq_toNat_of_ofNat_eq {n : Nat} {x : Char} (h : Char.ofNat n = x) (hx : x ≠ '\x00') :
    n = x.toNat := by
  by_cases hvalid : n.isValidChar
  · rw [Char.ofNat, dif_pos hvalid] at h
    rw [← h]
    rfl
  · rw [Char.ofNat, dif_neg hvalid] at h
    exact absurd h.symm hx

/-- A character whose lower-case form begins with an ASCII character is that character, or both are
letters. -/
theorem eq_or_letters_of_lowerAt {before : Bool} {c x : Char} {after xs : List Char}
    (h : lowerAt before c after = x :: xs) (hascii : x.toNat < 0x80) (hx : x ≠ '\x00') :
    (c = x ∧ xs = []) ∨
      (isAlphabetic c = true ∧ isAlphabetic x = true ∧ (xs = [] ∨ xs = ['\u0307'])) := by
  rw [lowerAt] at h
  by_cases hsigma : c = 'Σ'
  · have hbeyond : ∀ b : Bool, 0x80 ≤ (if b = true then 'ς' else 'σ').toNat := by decide
    have hform := hbeyond (before && !casedNear after)
    rw [if_pos hsigma, List.cons.injEq] at h
    rw [h.1] at hform
    omega
  · rw [if_neg hsigma, lowerChar] at h
    by_cases hdotted : c = 'İ'
    · rw [if_pos hdotted, List.cons.injEq] at h
      rw [hdotted, ← h.1, ← h.2]
      decide
    · rw [if_neg hdotted, List.cons.injEq] at h
      by_cases hsame : shifted lowercaseShifts c.toNat = c.toNat
      · rw [hsame, Char.ofNat_toNat] at h
        exact .inl ⟨h.1, h.2.symm⟩
      · have himage := eq_toNat_of_ofNat_eq h.1 hx
        rw [← himage] at hascii
        rcases letters_of_shifted_ne hsame hascii with ⟨hc, hform⟩
        rw [himage] at hform
        exact .inr ⟨hc, hform, .inl h.2.symm⟩

/-- Every character has a lower-case form. -/
theorem lowerAt_ne_nil (before : Bool) (c : Char) (after : List Char) :
    lowerAt before c after ≠ [] := by
  unfold lowerAt lowerChar
  split
  · simp
  · split <;> simp

/-! ## Texts -/

/-- Only the empty text has an empty lower-case form. -/
theorem lowercase_ne_empty {text : String} (h : text ≠ "") : lowercase text ≠ "" := by
  cases hchars : text.toList with
  | nil => exact absurd (String.toList_inj.mp hchars) h
  | cons c cs =>
    rw [lowercase, hchars, lowerFrom_cons]
    intro hempty
    have hnil := congrArg String.toList hempty
    rw [String.toList_ofList] at hnil
    exact lowerAt_ne_nil false c cs (List.append_eq_nil_iff.mp hnil).1

/-- A letter of ASCII. -/
def isAsciiLetter (c : Char) : Bool :=
  isAlphabetic c && c.toNat < 0x80

/-- The letters of ASCII are the alphabetic characters below 128. -/
theorem isAsciiLetter_iff (c : Char) :
    isAsciiLetter c = true ↔ isAlphabetic c = true ∧ c.toNat < 0x80 := by
  simp [isAsciiLetter]

/-- A text that begins with ASCII letters and a colon begins with an ASCII character. -/
theorem ascii_of_cons_eq {x : Char} {xs stem rest : List Char} (h : x :: xs = stem ++ ':' :: rest)
    (hstem : stem.all isAsciiLetter = true) : x.toNat < 0x80 := by
  cases stem with
  | nil =>
    rw [List.nil_append, List.cons.injEq] at h
    rw [h.1]
    decide
  | cons y stem =>
    rw [List.cons_append, List.cons.injEq] at h
    rw [List.all_cons, Bool.and_eq_true, isAsciiLetter_iff] at hstem
    rw [h.1]
    exact hstem.1.2

/-- A text whose lower-case form begins with ASCII letters and a colon begins with as many letters
and a colon itself. -/
theorem exists_split_of_lowerFrom {before : Bool} {cs stem rest : List Char}
    (h : lowerFrom before [] cs = stem ++ ':' :: rest)
    (hstem : stem.all isAsciiLetter = true) :
    ∃ name behind, cs = name ++ ':' :: behind ∧ name.length = stem.length ∧
      ∀ c ∈ name, isAlphabetic c = true := by
  induction cs generalizing before stem with
  | nil => simp [lowerFrom] at h
  | cons c cs ih =>
    rw [lowerFrom_cons] at h
    cases hform : lowerAt before c cs with
    | nil => exact absurd hform (lowerAt_ne_nil before c cs)
    | cons x xs =>
      rw [hform, List.cons_append] at h
      cases stem with
      | nil =>
        rw [List.nil_append, List.cons.injEq] at h
        rw [h.1] at hform
        rcases eq_or_letters_of_lowerAt hform (by decide) (by decide) with ⟨rfl, -⟩ | ⟨-, hcolon, -⟩
        · exact ⟨[], cs, rfl, rfl, by simp⟩
        · exact absurd hcolon (by decide)
      | cons y stem =>
        rw [List.cons_append, List.cons.injEq] at h
        rw [h.1] at hform
        rw [List.all_cons, Bool.and_eq_true, isAsciiLetter_iff] at hstem
        rcases hstem with ⟨⟨hletter, hascii⟩, hrest⟩
        have hne : y ≠ '\x00' := by
          rintro rfl
          exact absurd hletter (by decide)
        have hc : isAlphabetic c = true ∧ (xs = [] ∨ xs = ['\u0307']) := by
          rcases eq_or_letters_of_lowerAt hform hascii hne with ⟨rfl, hxs⟩ | ⟨hc, -, hxs⟩
          · exact ⟨hletter, .inl hxs⟩
          · exact ⟨hc, hxs⟩
        rcases hc with ⟨hc, rfl | rfl⟩
        · rcases ih h.2 hrest with ⟨name, behind, rfl, hlength, hname⟩
          refine ⟨c :: name, behind, rfl, ?_, List.forall_mem_cons.mpr ⟨hc, hname⟩⟩
          rw [List.length_cons, List.length_cons, hlength]
        · -- The combining dot is neither a colon nor one of the letters.
          have hdot := ascii_of_cons_eq h.2 hrest
          exact absurd hdot (by decide)

end Text
end TextSearch
