import Mathlib.Algebra.Group.Nat.Defs
import TextSearch.Proofs.Search.Fragments

/-!
# Windows in machine words

The bounds of a window are numbers without a limit.  A machine has them in words, where a difference
stops at zero and a sum stops at the greatest word.  As long as the characters of the text can be
counted in a word and the match lies within the text, this makes no difference: the middle of the
match is a place of the text, and a sum that stops is cut at the end of the text all the same.

Main results:

- Theorems `toNat_flooredDifference` and `toNat_cappedSum`: what words that stop at their limits
  stand for.
- Theorem `windowOfWords_ofNat`: in words, a window has the same bounds.
- Theorem `window_bounds`: the bounds of a window around a match.
-/

namespace TextSearch
namespace Excerpt

/-! ## Words that stop at their limits -/

/-- The difference of two words, or zero if the second one is greater. -/
def flooredDifference (a b : UInt64) : UInt64 :=
  if a < b then 0 else a - b

/-- The sum of two words, or the greatest word if there is no word for it. -/
def cappedSum (a b : UInt64) : UInt64 :=
  if a + b < a then .ofNat (2 ^ 64 - 1) else a + b

/-- A difference of words that stops at zero is the one of numbers. -/
theorem toNat_flooredDifference (a b : UInt64) :
    (flooredDifference a b).toNat = a.toNat - b.toNat := by
  unfold flooredDifference
  split
  · rename_i hless
    rw [UInt64.lt_iff_toNat_lt] at hless
    rw [UInt64.toNat_zero]
    omega
  · rename_i hless
    exact UInt64.toNat_sub_of_le a b (UInt64.not_lt.mp hless)

/-- A sum of words that stops at the greatest word is the one of numbers, cut there. -/
theorem toNat_cappedSum (a b : UInt64) :
    (cappedSum a b).toNat = min (a.toNat + b.toNat) (2 ^ 64 - 1) := by
  have ha := a.toNat_lt
  have hb := b.toNat_lt
  unfold cappedSum
  -- The sum of the words is less than the first one exactly if it has gone around.
  split
  · rename_i haround
    rw [UInt64.lt_iff_toNat_lt, UInt64.toNat_add] at haround
    rw [UInt64.toNat_ofNat_of_lt' (by decide)]
    omega
  · rename_i hexact
    rw [UInt64.lt_iff_toNat_lt, UInt64.toNat_add] at hexact
    rw [UInt64.toNat_add]
    omega

/-! ## Bounds of windows -/

/-- The bounds of the window around a match, in words. -/
def windowOfWords (size length start width : UInt64) : UInt64 × UInt64 :=
  let first := flooredDifference (start + width / 2) (size / 2)
  let last := min (cappedSum first size) length
  (min first last, last)

/-- Inside the text, the window computed in words is the one computed in numbers. -/
theorem toNat_windowOfWords {size length start width : UInt64}
    (h : start.toNat + width.toNat ≤ length.toNat) :
    ((windowOfWords size length start width).1.toNat,
        (windowOfWords size length start width).2.toNat) =
      window size.toNat length.toNat start.toNat width.toNat := by
  have hlength := length.toNat_lt
  have htwo : (2 : UInt64).toNat = 2 := rfl
  have hmiddle : (start + width / 2).toNat = start.toNat + width.toNat / 2 := by
    rw [UInt64.toNat_add, UInt64.toNat_div, htwo]
    omega
  simp only [windowOfWords, window, UInt64.toNat_min, toNat_cappedSum, toNat_flooredDifference,
    hmiddle, UInt64.toNat_div, htwo, Prod.mk.injEq]
  omega

/-- In words, a window around a match within the text has the same bounds. -/
theorem windowOfWords_ofNat {size length start width : Nat} (hsize : size < 2 ^ 64)
    (hlength : length < 2 ^ 64) (hwithin : start + width ≤ length) :
    windowOfWords (.ofNat size) (.ofNat length) (.ofNat start) (.ofNat width) =
      (.ofNat (window size length start width).1, .ofNat (window size length start width).2) := by
  have hword : ∀ n < 2 ^ 64, (UInt64.ofNat n).toNat = n := fun n hn =>
    UInt64.toNat_ofNat_of_lt' hn
  have hbounds := @toNat_windowOfWords (.ofNat size) (.ofNat length) (.ofNat start) (.ofNat width)
  rw [hword size hsize, hword length hlength, hword start (by omega), hword width (by omega)]
    at hbounds
  rw [← hbounds hwithin, UInt64.ofNat_toNat, UInt64.ofNat_toNat]

/-- The window around a match within a text lies within the text and is as long as it may be, so it
is smaller than its size only at the end of the text.  A match that is not wider than the window
lies within it.  Computing in machine words gives the same bounds. -/
theorem window_bounds (text : Array Char) {size start width : Nat}
    (hwithin : start + width ≤ text.size) :
    let (first, last) := window size text.size start width
    first ≤ last ∧ last ≤ text.size ∧ (text.extract first last).size = last - first ∧
      last - first = min size (text.size - first) ∧
      (width ≤ size → first ≤ start ∧ start + width ≤ last) ∧
      (size < 2 ^ 64 → text.size < 2 ^ 64 →
        windowOfWords (.ofNat size) (.ofNat text.size) (.ofNat start) (.ofNat width) =
          (.ofNat first, .ofNat last)) := by
  have hwindow := @isWindow_window size _ _ _ hwithin
  have hwords := @windowOfWords_ofNat size text.size start width
  generalize window size text.size start width = bounds at hwindow hwords ⊢
  obtain ⟨first, last⟩ := bounds
  obtain ⟨hordered, hinside, hsmall, -, hfilled, hwhole⟩ := hwindow
  refine ⟨hordered, hinside, ?_, ?_, hwhole, fun hsize htext => hwords hsize htext hwithin⟩
  · rw [Array.size_extract]
    omega
  · omega

/-- A match at the end of a text, with the greatest size that a word can have: the sum stops, and
the window is the whole text. -/
theorem window_bounds_greatest :
    2 + 3 ≤ #['a', 'b', 'c', 'd', 'e'].size ∧ 3 ≤ 2 ^ 64 - 1 ∧ 2 ^ 64 - 1 < 2 ^ 64 ∧
      window (2 ^ 64 - 1) 5 2 3 = (0, 5) ∧ 0 ≤ 2 ∧ 2 + 3 ≤ 5 ∧
      windowOfWords (.ofNat (2 ^ 64 - 1)) 5 2 3 = (0, 5) := by
  have hwithin : 2 + 3 ≤ #['a', 'b', 'c', 'd', 'e'].size := by decide
  have hbounds : window (2 ^ 64 - 1) #['a', 'b', 'c', 'd', 'e'].size 2 3 = (0, 5) := by decide
  have hwindow := @window_bounds #['a', 'b', 'c', 'd', 'e'] (2 ^ 64 - 1) 2 3 hwithin
  rw [hbounds] at hwindow
  obtain ⟨-, -, -, -, hwhole, hwords⟩ := hwindow
  obtain ⟨hfirst, hlast⟩ := hwhole (by decide)
  exact ⟨hwithin, by decide, by decide, hbounds, hfirst, hlast, hwords (by decide) (by decide)⟩

end Excerpt
end TextSearch
