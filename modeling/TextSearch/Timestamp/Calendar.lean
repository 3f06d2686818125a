/-!
# Days of the calendar

Days are counted from the first of January 1970.  A year is taken to begin in March, so that the
day that a leap year has more is the last one of its year, and the lengths of the months before it
follow one rule: the months from March on begin `(153 * m + 2) / 5` days into the year.

Main statement: `CivilDate.toDay_ofDay` — the date of a day is on that day.
-/

namespace TextSearch

/-- A date of the Gregorian calendar, which is continued backwards without end. -/
structure CivilDate where
  year : Int
  month : Nat
  day : Nat
  deriving DecidableEq, Repr

namespace CivilDate

/-- The year has a twenty-ninth of February. -/
def isLeap (year : Int) : Bool :=
  year % 4 == 0 && (year % 100 != 0 || year % 400 == 0)

/-- The number of days of a month. -/
def monthLength (year : Int) (month : Nat) : Nat :=
  if month = 2 then if isLeap year then 29 else 28
  else if month = 4 ∨ month = 6 ∨ month = 9 ∨ month = 11 then 30
  else 31

/-- The month and the day exist. -/
def isValid (date : CivilDate) : Bool :=
  1 ≤ date.month && date.month ≤ 12 && 1 ≤ date.day &&
    date.day ≤ monthLength date.year date.month

/-- The first of January 1970, counted from the first of March of the year zero. -/
def epoch : Int := 719468

/-- The day of a date. -/
def toDay (date : CivilDate) : Int :=
  let year := if date.month ≤ 2 then date.year - 1 else date.year
  let month := (date.month + 9) % 12
  365 * year + year / 4 - year / 100 + year / 400 + ((153 * month + 2) / 5 + date.day : Nat) - 1
    - epoch

/-- The date of a day: the whole periods of four hundred, a hundred, four years and one year are
taken off one after the other. -/
def ofDay (day : Int) : CivilDate :=
  let count := day + epoch
  let rest := (count % 146097).toNat
  let hundreds := min (rest / 36524) 3
  let rest := rest - 36524 * hundreds
  let fours := rest / 1461
  let rest := rest - 1461 * fours
  let ones := min (rest / 365) 3
  let rest := rest - 365 * ones
  let year : Int := 400 * (count / 146097) + (100 * hundreds + 4 * fours + ones : Nat)
  let month := (5 * rest + 2) / 153
  let dayOfMonth := rest - (153 * month + 2) / 5 + 1
  if month < 10 then ⟨year, month + 3, dayOfMonth⟩ else ⟨year + 1, month - 9, dayOfMonth⟩

/-- The leap years in whole periods. -/
theorem leapYears (era : Int) {hundreds fours ones : Nat} (h₁ : hundreds ≤ 3) (h₂ : fours ≤ 24)
    (h₃ : ones ≤ 3) :
    let year : Int := 400 * era + (100 * hundreds + 4 * fours + ones : Nat)
    year / 4 = 100 * era + 25 * hundreds + fours ∧ year / 100 = 4 * era + hundreds ∧
      year / 400 = era := by
  intro year
  refine ⟨?_, ?_, ?_⟩ <;> omega

/-- The date of a day is on that day. -/
theorem toDay_ofDay (day : Int) : toDay (ofDay day) = day := by
  unfold ofDay
  extract_lets count rest₁ hundreds rest₂ fours rest₃ ones rest₄ year month dayOfMonth
  have hrest₁ : rest₁ < 146097 := by omega
  have hh : hundreds ≤ 3 := by omega
  have hrest₂ : rest₂ ≤ 36524 := by omega
  have hf : fours ≤ 24 := by omega
  have ho : ones ≤ 3 := by omega
  have hrest₃ : rest₃ ≤ 1460 := by omega
  have hrest₄ : rest₄ ≤ 365 := by omega
  have hcount : count = 146097 * (count / 146097) + rest₁ := by omega
  have hyear : 365 * year + year / 4 - year / 100 + year / 400 + rest₄ = count := by
    obtain ⟨h₁, h₂, h₃⟩ := leapYears (count / 146097) hh hf ho
    rw [h₁, h₂, h₃]
    omega
  have hmonth : (153 * month + 2) / 5 ≤ rest₄ ∧ month ≤ 11 := by omega
  have hday : day = count - 719468 := by
    simp only [count, epoch]
    omega
  split
  · have hm : (month + 3 + 9) % 12 = month := by omega
    have hlate : ¬ month + 3 ≤ 2 := by omega
    simp only [toDay, hm, epoch, hlate, if_false, dayOfMonth]
    omega
  · have hm : (month - 9 + 9) % 12 = month := by omega
    have hearly : month - 9 ≤ 2 := by omega
    simp only [toDay, hm, epoch, hearly, if_true, dayOfMonth, Int.add_sub_cancel]
    omega

end CivilDate
end TextSearch
