import Mathlib.Data.Nat.Digits.Defs
import TextSearch.Decimal

/-!
# Digits of numbers

Numbers are printed with their digits, perhaps with zeros in front, and decimals with a sign and a
point besides.

Main results:

- Theorem `ofDigits_padded`: zeros in front of the digits of a number do not change it.
- Theorem `isPart_of_mem_fixed`: what characters there are in a decimal.
-/

namespace TextSearch
namespace Decimal

/-- Padding with zeros leaves only digits. -/
theorem isDigit_of_mem_padded {width n : Nat} {c : Char} (h : c ∈ padded width (digits n)) :
    c.isDigit = true := by
  rcases List.mem_append.mp h with hzero | hdigit
  · rw [List.eq_of_mem_replicate hzero]
    rfl
  · exact Nat.isDigit_of_mem_toDigits (by decide) (by decide) hdigit

/-- A padded number is never empty. -/
theorem padded_ne_nil (width n : Nat) : padded width (digits n) ≠ [] := by
  rw [padded]
  exact List.append_ne_nil_of_right_ne_nil _ Nat.toDigits_ne_nil

/-- A number below `10 ^ width` is padded to exactly `width` digits. -/
theorem length_padded {width n : Nat} (hwidth : 0 < width) (h : n < 10 ^ width) :
    (padded width (digits n)).length = width := by
  have hdigits : (digits n).length ≤ width :=
    (Nat.length_toDigits_le_iff (by decide) hwidth).mpr h
  rw [padded, List.length_append, List.length_replicate]
  omega

/-- Zeros in front of the digits of a number do not change it. -/
theorem ofDigits_padded (width n : Nat) : ofDigits (padded width (digits n)) = n := by
  have hzeros : ∀ count, ofDigits (List.replicate count '0') = 0 := by
    intro count
    induction count with
    | zero => rfl
    | succ count ih =>
      rw [List.replicate_succ', ofDigits, List.foldl_append, ← ofDigits, ih]
      rfl
  have hdigits : ofDigits (digits n) = n := by
    have hcore := Nat.ofDigitChars_toDigits (by decide : 1 < 10) (Nat.le_refl 10) (n := n)
    simpa [ofDigits, digits, digitValue, Nat.ofDigitChars, Nat.mul_comm] using hcore
  rw [padded, ofDigits, List.foldl_append, ← ofDigits, hzeros, ← ofDigits, hdigits]

/-! ## Decimals -/

/-- A character that decimals are made of: a digit, a sign, a point, or a letter of the words for
what is no finite number. -/
def IsPart (c : Char) : Prop :=
  c.isDigit = true ∨ c ∈ "-.infNaN".toList

instance (c : Char) : Decidable (IsPart c) :=
  inferInstanceAs (Decidable (_ ∨ _))

/-- A sign in front of allowed characters leaves only allowed ones. -/
theorem isPart_of_mem_signed {negative : Bool} {ds : List Char} (hds : ∀ d ∈ ds, IsPart d)
    {c : Char} (h : c ∈ (signed negative ds).toList) : IsPart c := by
  rw [signed, String.toList_ofList] at h
  cases negative with
  | false => exact hds c h
  | true =>
    rcases List.mem_cons.mp h with rfl | h
    · decide
    · exact hds c h

/-- The words for what is not a number are made of allowed characters. -/
theorem isPart_of_mem_words {c : Char} (h : c ∈ "NaN".toList ∨ c ∈ "inf".toList) : IsPart c := by
  have hword : c ∈ ['N', 'a', 'N'] ∨ c ∈ ['i', 'n', 'f'] := h
  simp only [List.mem_cons, List.not_mem_nil, or_false] at hword
  rcases hword with (rfl | rfl | rfl) | rfl | rfl | rfl <;> decide

/-- A point among digits leaves only such characters. -/
theorem isPart_of_mem_pointed {places width n : Nat} {c : Char}
    (h : c ∈ pointed places (padded width (digits n))) : IsPart c := by
  rw [pointed] at h
  split at h
  · exact .inl (isDigit_of_mem_padded (List.mem_of_mem_take h))
  · rcases List.mem_append.mp h with hwhole | hpoint
    · exact .inl (isDigit_of_mem_padded (List.mem_of_mem_take hwhole))
    · rcases List.mem_cons.mp hpoint with rfl | hrest
      · decide
      · exact .inl (isDigit_of_mem_padded (List.mem_of_mem_drop hrest))

/-- A decimal is made of the characters that decimals are made of. -/
theorem isPart_of_mem_fixed {places : Nat} {x : Float} {c : Char}
    (h : c ∈ (fixed places x).toList) : IsPart c := by
  rw [fixed, written] at h
  split at h
  · exact isPart_of_mem_words (.inl h)
  · exact isPart_of_mem_signed (fun d hd => isPart_of_mem_words (.inr hd)) h
  · exact isPart_of_mem_signed (fun d hd => isPart_of_mem_pointed hd) h

end Decimal
end TextSearch
