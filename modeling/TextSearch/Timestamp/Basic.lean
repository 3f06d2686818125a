import TextSearch.Timestamp.Calendar

/-!
# Timestamps

A timestamp is a moment of universal time, to the nanosecond.  During a leap second the second
before it goes on: the nanoseconds run up to two thousand millions.

Timestamps are ordered by day, second and nanosecond.
-/

namespace TextSearch

/-- A moment of a day within the range of dates. -/
structure Timestamp where
  day : Int
  /-- Seconds since midnight. -/
  second : Nat
  nano : Nat
  inRange : CivilDate.toDay ⟨-262143, 1, 1⟩ ≤ day ∧ day ≤ CivilDate.toDay ⟨262142, 12, 31⟩
  inDay : second < 86400
  /-- Only the last second of a minute can be followed by a leap second. -/
  inSecond : nano < 1000000000 ∨ second % 60 = 59 ∧ nano < 2000000000
  deriving DecidableEq

namespace Timestamp

/-- The timestamp with the given parts, if there is one. -/
def ofParts? (day : Int) (second nano : Nat) : Option Timestamp :=
  if h : (CivilDate.toDay ⟨-262143, 1, 1⟩ ≤ day ∧ day ≤ CivilDate.toDay ⟨262142, 12, 31⟩) ∧
      second < 86400 ∧ (nano < 1000000000 ∨ second % 60 = 59 ∧ nano < 2000000000) then
    some ⟨day, second, nano, h.1, h.2.1, h.2.2⟩
  else none

/-- The parts of a timestamp are those of a timestamp. -/
@[simp]
theorem ofParts?_self (t : Timestamp) : ofParts? t.day t.second t.nano = some t := by
  simp [ofParts?, t.inRange, t.inDay, t.inSecond]

/-- The first moment of 1970. -/
def epoch : Timestamp :=
  ⟨0, 0, 0, by decide, by decide, by decide⟩

instance : Inhabited Timestamp :=
  ⟨epoch⟩

/-- The moment that lies the given number of seconds and nanoseconds after the epoch. -/
def ofSeconds? (seconds : Int) (nano : Nat) : Option Timestamp :=
  ofParts? (seconds / 86400) (seconds % 86400).toNat nano

/-- The midnight that the given day begins with, counted from the first of January 2024; the epoch
stands for days out of range. -/
def ofDays (days : Int) : Timestamp :=
  (ofParts? (CivilDate.toDay ⟨2024, 1, 1⟩ + days) 0 0).getD epoch

instance : Ord Timestamp where
  compare a b :=
    (compare a.day b.day).then ((compare a.second b.second).then (compare a.nano b.nano))

/-- The first timestamp is not later than the second. -/
def notAfter (a b : Timestamp) : Bool :=
  (compare a b).isLE

end Timestamp
end TextSearch
