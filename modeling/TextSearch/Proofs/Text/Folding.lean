import Mathlib.Data.List.Forall2
import Mathlib.Data.List.Sort
import TextSearch.Proofs.Text.Lowercase
import TextSearch.Text.Folding

/-!
# Folded characters and letters

Two ways to forget the case of a character stand side by side: its folded form, which is what
lower-casing makes of it, and its letter, which all its case forms share.  The folded form of a
character is a form of the same letter, with a few exceptions: `İ`, whose folded form is `i`, and
capitals that are newer than the table of letters.

Main results:

- Theorem `letter_foldChar`: folding keeps the letter of a character that is not estranged.
- Theorem `sameLetters_of_foldChars_eq`: texts that are folded to the same text have the same
  letters, if no character in them is estranged.
-/

namespace TextSearch
namespace Text

/-! ## Texts with the same letters -/

/-- The texts have the same letters place by place, in whatever case. -/
def SameLetters (xs ys : List Char) : Prop :=
  List.Forall₂ (fun x y => sameLetter x y = true) xs ys

instance (xs ys : List Char) : Decidable (SameLetters xs ys) :=
  inferInstanceAs (Decidable (List.Forall₂ _ xs ys))

theorem sameLetter_iff {x y : Char} : sameLetter x y = true ↔ letter x = letter y :=
  beq_iff_eq

/-- Texts with the same letters are those with the same sequence of letters. -/
theorem sameLetters_iff {xs ys : List Char} :
    SameLetters xs ys ↔ xs.map letter = ys.map letter := by
  rw [SameLetters, ← List.forall₂_eq_eq_eq, List.forall₂_map_left_iff, List.forall₂_map_right_iff]
  simp only [sameLetter_iff]

/-- The case forms of a letter, sorted in a way that can be computed in proofs. -/
theorem caseForms_eq :
    caseForms = fun c => (preimages letterShifts (letter c).toNat).insertionSort (· ≤ ·) :=
  funext fun _ => List.mergeSort_eq_insertionSort (· ≤ ·) _

/-! ## Shifts of two tables -/

/-- The shifts move the numbers of one shift as it does itself: it is one of them, and those in
front of it end before its numbers. -/
def movesAlike (shift : Shift) : List Shift → Bool
  | [] => false
  | other :: rest =>
    (Nat.beq other.first shift.first && Nat.beq other.last shift.last &&
        Nat.beq other.step shift.step && Nat.beq other.image shift.image) ||
      (Nat.ble other.first shift.first && Nat.blt other.last shift.first &&
        movesAlike shift rest)

/-- Where a table moves a range like the shift, each code point on its steps goes to its place in
the image. -/
theorem shifted_of_movesAlike {shift : Shift} {shifts : List Shift} {n : Nat}
    (h : movesAlike shift shifts = true) (hfirst : shift.first ≤ n) (hlast : n ≤ shift.last)
    (hstep : (n - shift.first) % shift.step = 0) :
    shifted shifts n = shift.image + (n - shift.first) := by
  induction shifts with
  | nil => contradiction
  | cons other rest ih =>
    simp only [movesAlike, Bool.or_eq_true, Bool.and_eq_true, Nat.beq_eq, Nat.ble_eq,
      Nat.blt_eq] at h
    rw [shifted]
    rcases h with ⟨⟨⟨hsame, hend⟩, hstride⟩, himage⟩ | ⟨⟨hbegins, hends⟩, hrest⟩
    · rw [hsame, hend, hstride, himage, if_neg (by omega), if_pos hlast, if_pos hstep]
    · rw [if_neg (by omega), if_neg (by omega)]
      exact ih hrest

/-! ## Estranged characters -/

/-- The characters whose folded form is not a form of their letter: `İ`, and capitals that are newer
than the table of letters. -/
def estrangedRanges : List (Nat × Nat) :=
  [(0x130, 0x130), (0xA7CE, 0xA7CE), (0xA7D2, 0xA7D2), (0xA7D4, 0xA7D4), (0x16EA0, 0x16EB8)]

/-- The folded form of the character belongs to another letter. -/
def isEstranged (c : Char) : Bool :=
  inRanges estrangedRanges c.toNat

/-- A code point that has a lower-case form has it as its letter too, unless it is estranged; and
the form is its own letter. -/
theorem shifted_letterShifts {n : Nat} (h : shifted lowercaseShifts n ≠ n)
    (hplain : inRanges estrangedRanges n = false) :
    shifted letterShifts n = shifted lowercaseShifts n ∧
      shifted letterShifts (shifted lowercaseShifts n) = shifted lowercaseShifts n := by
  -- The two tables share their rows, but for two of them, which are gone through point by point.
  have htable : ∀ shift ∈ lowercaseShifts,
      (shift.first ≤ shift.last ∧ movesAlike shift letterShifts = true ∧
          leavesAlone shift.image (shift.image + (shift.last - shift.first)) shift.step
            letterShifts = true) ∨
        ∀ n ∈ shift.points, inRanges estrangedRanges n = true ∨
          shifted letterShifts n = shift.image + (n - shift.first) ∧
            shifted letterShifts (shift.image + (n - shift.first)) =
              shift.image + (n - shift.first) := by
    decide +kernel
  obtain ⟨shift, hshift, hpoint, himage⟩ := exists_shift_of_shifted_ne h
  rw [himage]
  rcases htable shift hshift with ⟨hordered, halike, halone⟩ | hpoints
  · obtain ⟨hfirst, hlast, hstep⟩ := Shift.of_mem_points hpoint
    refine ⟨shifted_of_movesAlike halike hfirst (by omega) hstep, ?_⟩
    apply shifted_of_leavesAlone halone (by omega) (by omega)
    rw [Nat.add_sub_cancel_left]
    exact hstep
  · rcases hpoints n hpoint with hestranged | hsame
    · exact absurd (hplain.symm.trans hestranged) Bool.false_ne_true
    · exact hsame

/-- A code point that the table leaves alone is its own letter. -/
theorem letter_ofNat {n : Nat} (h : shifted letterShifts n = n) :
    letter (Char.ofNat n) = Char.ofNat n := by
  by_cases hzero : Char.ofNat n = '\x00'
  · rw [hzero]
    decide
  · rw [letter, ← eq_toNat_of_ofNat_eq rfl hzero, h]

/-- Folding keeps the letter of a character that is not estranged. -/
theorem letter_foldChar {c : Char} (h : isEstranged c = false) :
    letter (foldChar c) = letter c := by
  by_cases hdotted : c = 'İ'
  · rw [hdotted] at h
    contradiction
  · have hfold : foldChar c = Char.ofNat (shifted lowercaseShifts c.toNat) := if_neg hdotted
    by_cases hsame : shifted lowercaseShifts c.toNat = c.toNat
    · rw [hfold, hsame, Char.ofNat_toNat]
    · obtain ⟨hletter, hagain⟩ := shifted_letterShifts hsame h
      calc letter (foldChar c)
          = Char.ofNat (shifted lowercaseShifts c.toNat) := by rw [hfold, letter_ofNat hagain]
        _ = letter c := by rw [letter, hletter]

/-- Folding a text that is not empty leaves something of it. -/
theorem foldChars_ne_nil {cs : List Char} (h : cs ≠ []) : foldChars cs ≠ [] := by
  simpa [foldChars] using h

/-- Texts that are folded to the same text have the same letters, if no character in them is
estranged. -/
theorem sameLetters_of_foldChars_eq {xs ys : List Char} (h : foldChars xs = foldChars ys)
    (hxs : ∀ x ∈ xs, isEstranged x = false) (hys : ∀ y ∈ ys, isEstranged y = false) :
    SameLetters xs ys := by
  have hletters : ∀ {cs : List Char}, (∀ c ∈ cs, isEstranged c = false) →
      (foldChars cs).map letter = cs.map letter := by
    intro cs hcs
    rw [foldChars, List.map_map]
    exact List.map_congr_left fun c hc => letter_foldChar (hcs c hc)
  rw [sameLetters_iff, ← hletters hxs, h, hletters hys]

end Text
end TextSearch
