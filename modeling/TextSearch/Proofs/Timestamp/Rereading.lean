import TextSearch.Proofs.Decimal.Digits
import TextSearch.Proofs.Text.Separation
import TextSearch.Timestamp.Text
import Mathlib.Tactic.ByContra
import Mathlib.Tactic.IntervalCases

/-!
# Timestamps are read back

The text of a timestamp is read as this timestamp, leap seconds and years of more than four digits
included.  The parts are read one after the other, each with whatever stands behind it: the numbers
have fixed widths, but for years with a sign and fractions, which end where no digit follows.

Main results:

- Theorem `CivilDate.isValid_ofDay`: the date of a day exists.
- Theorem `Timestamp.ofText?_text`: the text of a timestamp is read as this timestamp.
-/

namespace TextSearch

/-! ## Dates -/

namespace CivilDate

/-- The last day of a leap year that begins in March comes at the end of four years, and at the end
of a hundred years only if four hundred years end with it. -/
theorem isLeap_of_lastDay (era : Int) {hundreds fours : Nat} (hfours : fours ≤ 24)
    (hlast : fours = 24 → hundreds = 3) :
    isLeap (400 * era + (100 * hundreds + 4 * fours + 3 : Nat) + 1) = true := by
  simp only [isLeap, Bool.and_eq_true, Bool.or_eq_true, beq_iff_eq, bne_iff_ne]
  constructor
  · omega
  · by_cases hend : fours = 24
    · right
      rw [hlast hend, hend]
      omega
    · left
      omega

/-- From March to December, no month is longer than the days until the next one begins. -/
theorem le_monthLength (year : Int) {month rest : Nat} (hlate : month < 10)
    (hlow : (153 * month + 2) / 5 ≤ rest) (hhigh : rest < (153 * (month + 1) + 2) / 5) :
    rest - (153 * month + 2) / 5 + 1 ≤ monthLength year (month + 3) := by
  rw [monthLength, if_neg (by omega)]
  split <;> interval_cases month <;> omega

/-- The date of a day exists. -/
theorem isValid_ofDay (day : Int) : (ofDay day).isValid = true := by
  unfold ofDay
  extract_lets count rest₁ hundreds rest₂ fours rest₃ ones rest₄ year month dayOfMonth
  have hrest₁ : rest₁ < 146097 := by omega
  have hh : hundreds ≤ 3 := by omega
  have hrest₂ : rest₂ ≤ 36524 := by omega
  have hf : fours ≤ 24 := by omega
  have hrest₃ : rest₃ ≤ 1460 := by omega
  have hrest₄ : rest₄ ≤ 365 := by omega
  have hlow : (153 * month + 2) / 5 ≤ rest₄ := by omega
  have hhigh : rest₄ < (153 * (month + 1) + 2) / 5 := by omega
  split
  · rename_i hlate
    have hlength : dayOfMonth ≤ monthLength year (month + 3) :=
      le_monthLength year hlate hlow hhigh
    simp only [isValid, Bool.and_eq_true, decide_eq_true_eq]
    omega
  · rename_i hearly
    have hmonth : month = 10 ∨ month = 11 := by omega
    have hlength : dayOfMonth ≤ monthLength (year + 1) (month - 9) := by
      rcases hmonth with hmonth | hmonth
      · rw [hmonth]
        simp [monthLength]
        omega
      · by_cases hlast : rest₄ = 365
        · have hones : ones = 3 := by omega
          have hleap : isLeap (year + 1) = true := by
            have hend : fours = 24 → hundreds = 3 := by omega
            simpa [year, hones] using isLeap_of_lastDay (count / 146097) hf hend
          rw [hmonth]
          simp [monthLength, hleap]
          omega
        · have hfeb : 28 ≤ monthLength (year + 1) 2 := by
            rw [monthLength, if_pos rfl]
            split <;> decide
          rw [hmonth]
          change dayOfMonth ≤ monthLength (year + 1) 2
          omega
    simp only [isValid, Bool.and_eq_true, decide_eq_true_eq]
    omega

end CivilDate

/-! ## Parts of a timestamp -/

namespace Timestamp

theorem isBlank_of_isDigit {c : Char} (h : c.isDigit = true) : Text.isBlank c = false := by
  by_contra hblank
  have hcode := Text.mem_blankCodes (Bool.eq_true_of_not_eq_false hblank)
  have hcodes : ∀ n ∈ Text.blankCodes, n < '0'.toNat ∨ '9'.toNat < n := by
    decide
  have hdigit : '0'.toNat ≤ c.toNat ∧ c.toNat ≤ '9'.toNat := by
    simpa [Char.isDigit, UInt32.le_iff_toNat_le] using h
  have hrange := hcodes _ hcode
  omega

/-- Digits are read as a number, if no more of them may be read or none follows. -/
theorem number?_append {width : Nat} {ds rest : List Char} (hne : ds ≠ [])
    (hdigits : ∀ c ∈ ds, c.isDigit = true) (hwidth : ds.length ≤ width)
    (hstop : ds.length = width ∨ ∀ c ∈ rest.head?, c.isDigit = false) :
    number? width (ds ++ rest) = some (Decimal.ofDigits ds, rest) := by
  have htail : (rest.take (width - ds.length)).takeWhile Char.isDigit = [] := by
    rcases hstop with hall | hstop
    · rw [hall, Nat.sub_self, List.take_zero, List.takeWhile_nil]
    · cases rest with
      | nil => rw [List.take_nil, List.takeWhile_nil]
      | cons c rest =>
        cases width - ds.length with
        | zero => rfl
        | succ left =>
          rw [List.take_succ_cons, List.takeWhile_cons_of_neg (by simp [hstop c rfl])]
  have htaken : ((ds ++ rest).take width).takeWhile Char.isDigit = ds := by
    rw [List.take_append, List.take_of_length_le hwidth, List.takeWhile_append_of_pos hdigits,
      htail, List.append_nil]
  rw [number?, htaken]
  simp [hne]

/-- Before digits there is no blank to skip. -/
theorem skipBlanks_append {ds rest : List Char} (hne : ds ≠ [])
    (hdigits : ∀ c ∈ ds, c.isDigit = true) : skipBlanks (ds ++ rest) = ds ++ rest := by
  cases ds with
  | nil => contradiction
  | cons c ds =>
    have hblank := isBlank_of_isDigit (hdigits c List.mem_cons_self)
    rw [List.cons_append, skipBlanks, List.dropWhile_cons_of_neg (by simp [hblank])]

/-- A number of a fixed width is read back. -/
theorem part?_padded {width n : Nat} (hwidth : 0 < width) (h : n < 10 ^ width)
    (rest : List Char) : part? width (Decimal.padded width (Decimal.digits n) ++ rest) =
      some (n, rest) := by
  have hlength := Decimal.length_padded hwidth h
  have hne := Decimal.padded_ne_nil width n
  rw [part?, skipBlanks_append hne fun c => Decimal.isDigit_of_mem_padded,
    number?_append hne (fun c => Decimal.isDigit_of_mem_padded) (by omega) (.inl hlength),
    Decimal.ofDigits_padded]

/-- A mark that is no blank is read where it stands. -/
theorem mark?_cons {mark : Char} (h : Text.isBlank mark = false) (rest : List Char) :
    mark? mark (mark :: rest) = some rest := by
  rw [mark?, skipBlanks, List.dropWhile_cons_of_neg (by simp [h])]
  exact if_pos rfl

/-- A year that begins with a digit has no sign. -/
theorem year?_of_isDigit {c : Char} (h : c.isDigit = true) (cs : List Char) :
    year? (c :: cs) = (number? 4 (c :: cs)).map fun (n, rest) => ((n : Int), rest) := by
  have hskip : skipBlanks (c :: cs) = c :: cs := by
    rw [skipBlanks, List.dropWhile_cons_of_neg (by simp [isBlank_of_isDigit h])]
  rw [year?, hskip]
  split
  · rename_i heq
    rw [(List.cons.inj heq).1] at h
    contradiction
  · rename_i heq
    rw [(List.cons.inj heq).1] at h
    contradiction
  · rfl

/-- A year behind a minus is negative. -/
theorem year?_minus (cs : List Char) :
    year? ('-' :: cs) = (number? cs.length cs).map fun (n, rest) => (-(n : Int), rest) :=
  rfl

/-- A year behind a plus is positive. -/
theorem year?_plus (cs : List Char) :
    year? ('+' :: cs) = (number? cs.length cs).map fun (n, rest) => ((n : Int), rest) :=
  rfl

/-- A year is read back, if no digit follows. -/
theorem year?_yearText (year : Int) {rest : List Char}
    (hstop : ∀ c ∈ rest.head?, c.isDigit = false) :
    year? (yearText year ++ rest) = some (year, rest) := by
  rw [yearText]
  split
  · rename_i hplain
    have hlength := Decimal.length_padded (by decide : 0 < 4) (by omega : year.toNat < 10 ^ 4)
    have hread := number?_append (Decimal.padded_ne_nil 4 year.toNat)
      (fun c => Decimal.isDigit_of_mem_padded) (Nat.le_of_eq hlength)
      (.inl hlength : _ ∨ ∀ c ∈ rest.head?, c.isDigit = false)
    rw [Decimal.ofDigits_padded] at hread
    obtain ⟨c, ds, hds⟩ := List.exists_cons_of_ne_nil (Decimal.padded_ne_nil 4 year.toNat)
    have hmem : c ∈ Decimal.padded 4 (Decimal.digits year.toNat) := by
      rw [hds]
      exact List.mem_cons_self
    have hdigit := Decimal.isDigit_of_mem_padded hmem
    rw [hds, List.cons_append] at hread ⊢
    rw [year?_of_isDigit hdigit, hread, Option.map_some]
    dsimp only
    rw [Int.toNat_of_nonneg hplain.1]
  · rename_i hsigned
    have hread : ∀ width, (Decimal.padded 4 (Decimal.digits year.natAbs)).length ≤ width →
        number? width (Decimal.padded 4 (Decimal.digits year.natAbs) ++ rest) =
          some (year.natAbs, rest) := by
      intro width hwidth
      rw [number?_append (Decimal.padded_ne_nil 4 year.natAbs)
        (fun c => Decimal.isDigit_of_mem_padded) hwidth (.inr hstop), Decimal.ofDigits_padded]
    split
    · rw [List.cons_append, year?_minus, hread _ (by simp), Option.map_some, Option.some.injEq,
        Prod.mk.injEq]
      exact ⟨by omega, rfl⟩
    · rw [List.cons_append, year?_plus, hread _ (by simp), Option.map_some, Option.some.injEq,
        Prod.mk.injEq]
      exact ⟨by omega, rfl⟩

/-- A date that exists is read back. -/
theorem date?_of_isValid {date : CivilDate} (h : date.isValid = true) (rest : List Char) :
    date? (yearText date.year ++ '-' ::
        (twoDigits date.month ++ '-' :: (twoDigits date.day ++ rest))) = some (date, rest) := by
  have hbounds : date.month < 10 ^ 2 ∧ date.day < 10 ^ 2 := by
    have hlength : CivilDate.monthLength date.year date.month ≤ 31 := by
      rw [CivilDate.monthLength]
      split_ifs <;> decide
    simp only [CivilDate.isValid, Bool.and_eq_true, decide_eq_true_eq] at h
    omega
  have hhyphen : Text.isBlank '-' = false := by
    decide
  rw [date?, year?_yearText]
  · simp only [Option.bind_eq_bind, Option.bind_some, mark?_cons hhyphen, twoDigits,
      part?_padded (by decide : 0 < 2) hbounds.1, part?_padded (by decide : 0 < 2) hbounds.2]
    exact if_pos h
  · intro c hc
    rw [← Option.some.inj hc]
    rfl

/-! ## Times -/

/-- The digits of a fraction stand for as many nanoseconds as the zeros behind them say. -/
theorem fraction?_padded {width n : Nat} (hpos : 0 < width) (hwidth : width ≤ 9)
    (h : n < 10 ^ width) (rest : List Char) :
    fraction? ('.' :: (Decimal.padded width (Decimal.digits n) ++ 'Z' :: rest)) =
      some (n * 10 ^ (9 - width), 'Z' :: rest) := by
  have hlength := Decimal.length_padded hpos h
  have hread : (Decimal.padded width (Decimal.digits n) ++ 'Z' :: rest).takeWhile Char.isDigit =
      Decimal.padded width (Decimal.digits n) := by
    rw [List.takeWhile_append_of_pos fun c => Decimal.isDigit_of_mem_padded,
      List.takeWhile_cons_of_neg (by decide), List.append_nil]
  have hne := Decimal.padded_ne_nil width n
  rw [fraction?, hread, List.take_of_length_le (by omega)]
  simp [hne, Decimal.ofDigits_padded, hlength]

/-- The fraction of a second is read back. -/
theorem fraction?_fractionText {nano : Nat} (h : nano < 1000000000) (rest : List Char) :
    fraction? (fractionText nano ++ 'Z' :: rest) = some (nano, 'Z' :: rest) := by
  rw [fractionText]
  split_ifs with hzero hmillis hmicros
  · rw [hzero]
    rfl
  · rw [List.cons_append, fraction?_padded (by decide) (by decide) (by omega)]
    rw [show nano / 1000000 * 10 ^ (9 - 3) = nano by omega]
  · rw [List.cons_append, fraction?_padded (by decide) (by decide) (by omega)]
    rw [show nano / 1000 * 10 ^ (9 - 6) = nano by omega]
  · rw [List.cons_append, fraction?_padded (by decide) (by decide) (by omega)]
    rw [show nano * 10 ^ (9 - 9) = nano by omega]

/-- A time is read back, if its parts are in range; a sixtieth second prolongs the one before it. -/
theorem time?_of_lt {hour minute second nano : Nat} (hhour : hour < 24) (hminute : minute < 60)
    (hsecond : second ≤ 60) (hnano : nano < 1000000000) (rest : List Char) :
    time? (twoDigits hour ++ ':' :: (twoDigits minute ++ ':' ::
        (twoDigits second ++ (fractionText nano ++ 'Z' :: rest)))) =
      some (if second = 60 then
        (hour * 3600 + minute * 60 + 59, nano + 1000000000, 'Z' :: rest)
      else (hour * 3600 + minute * 60 + second, nano, 'Z' :: rest)) := by
  have hcolon : Text.isBlank ':' = false := by
    decide
  have hinRange : ¬ (24 ≤ hour ∨ 60 ≤ minute ∨ 60 < second) := by
    omega
  simp only [time?, Option.bind_eq_bind, Option.bind_some, mark?_cons hcolon, twoDigits,
    part?_padded (by decide : 0 < 2) (by omega : hour < 10 ^ 2),
    part?_padded (by decide : 0 < 2) (by omega : minute < 10 ^ 2),
    part?_padded (by decide : 0 < 2) (by omega : second < 10 ^ 2),
    fraction?_fractionText hnano, if_neg hinRange]
  split <;> rfl

/-- The text of the time of a timestamp, with the letter of universal time. -/
def timeText (t : Timestamp) : List Char :=
  let leap := if t.nano < 1000000000 then 0 else 1
  twoDigits (t.second / 3600) ++ ':' :: (twoDigits (t.second / 60 % 60) ++ ':' ::
    (twoDigits (t.second % 60 + leap) ++ (fractionText (t.nano - 1000000000 * leap) ++ ['Z'])))

/-- The time of a timestamp is read back. -/
theorem time?_timeText (t : Timestamp) : time? (timeText t) = some (t.second, t.nano, ['Z']) := by
  have hinDay := t.inDay
  have hinSecond := t.inSecond
  have hhour : t.second / 3600 < 24 := by omega
  have hminute : t.second / 60 % 60 < 60 := by omega
  rw [timeText]
  by_cases hleap : t.nano < 1000000000
  · have hplain : t.second % 60 ≠ 60 := by omega
    simp only [if_pos hleap, Nat.mul_zero, Nat.add_zero, Nat.sub_zero]
    rw [time?_of_lt hhour hminute (by omega) hleap, if_neg hplain]
    simp only [Option.some.injEq, Prod.mk.injEq, and_true]
    omega
  · have hsixtieth : t.second % 60 + 1 = 60 := by omega
    simp only [if_neg hleap, Nat.mul_one]
    rw [time?_of_lt hhour hminute (by omega) (by omega), if_pos hsixtieth]
    simp only [Option.some.injEq, Prod.mk.injEq, and_true]
    omega

/-! ## Timestamps -/

/-- A date and a time of universal time are read as the timestamp with these parts. -/
theorem ofText?_of_parts {date : CivilDate} {cs rest : List Char} {second nano : Nat}
    (hdate : date? cs = some (date, 'T' :: rest)) (htime : time? rest = some (second, nano, ['Z']))
    (hday : (ofParts? date.toDay 0 0).isSome = true) (hsecond : second < 86400) :
    ofText? (.ofList cs) = ofParts? date.toDay second nano := by
  obtain ⟨midnight, hmidnight⟩ := Option.isSome_iff_exists.mp hday
  have hoffset : offset? (skipBlanks ['Z']) = some (0, []) :=
    rfl
  have hparts : ((second : Int) - 0) / 86400 = 0 ∧
      (((second : Int) - 0) % 86400).toNat = second := by
    omega
  have hseparator : ((('T' :: rest).take 1).any isSeparator) = true :=
    rfl
  have hend : ((skipBlanks []).isEmpty && (0 : Int).natAbs < 86400) = true :=
    rfl
  simp only [ofText?, String.toList_ofList, hdate, hseparator, List.drop_succ_cons, List.drop_zero,
    htime, hoffset, hend, hmidnight, guard, if_true, hparts, Option.bind_eq_bind, Option.bind_some,
    Option.pure_def, Int.add_zero]

/-- The text of a timestamp is read as this timestamp. -/
theorem ofText?_text (t : Timestamp) : ofText? t.text = some t := by
  have hday := CivilDate.toDay_ofDay t.day
  have hdate := date?_of_isValid (CivilDate.isValid_ofDay t.day) ('T' :: timeText t)
  have hmidnight : (ofParts? (CivilDate.ofDay t.day).toDay 0 0).isSome = true := by
    rw [hday, ofParts?, dif_pos ⟨t.inRange, by decide, by decide⟩]
    rfl
  have hwrites : t.text = .ofList (yearText (CivilDate.ofDay t.day).year ++ '-' ::
      (twoDigits (CivilDate.ofDay t.day).month ++ '-' ::
        (twoDigits (CivilDate.ofDay t.day).day ++ 'T' :: timeText t))) := by
    simp [text, timeText]
  rw [hwrites, ofText?_of_parts hdate (time?_timeText t) hmidnight t.inDay, hday, ofParts?_self]

end Timestamp
end TextSearch
