import TextSearch.Decimal
import TextSearch.Text.Characters
import TextSearch.Timestamp.Basic

/-!
# Texts of timestamps

A timestamp is written as a date and a time in the form `2024-01-31T23:59:59.5Z`, with the fewest
groups of three digits of a second that are exact.  Years of more than four digits have a sign.

Reading is more tolerant: blank characters may stand between the parts, numbers need no zeros in
front, a year with a sign may have any number of digits, and the moment may be given for a place
that is ahead of universal time or behind it.
-/

namespace TextSearch
namespace Timestamp

/-! ## Writing -/

/-- A year: four digits, and a sign if four digits are not enough. -/
def yearText (year : Int) : List Char :=
  if 0 ≤ year ∧ year ≤ 9999 then Decimal.padded 4 (Decimal.digits year.toNat)
  else (if year < 0 then '-' else '+') :: Decimal.padded 4 (Decimal.digits year.natAbs)

/-- A number of two digits. -/
def twoDigits (n : Nat) : List Char :=
  Decimal.padded 2 (Decimal.digits n)

/-- The fraction of a second. -/
def fractionText (nano : Nat) : List Char :=
  if nano = 0 then []
  else if nano % 1000000 = 0 then '.' :: Decimal.padded 3 (Decimal.digits (nano / 1000000))
  else if nano % 1000 = 0 then '.' :: Decimal.padded 6 (Decimal.digits (nano / 1000))
  else '.' :: Decimal.padded 9 (Decimal.digits nano)

/-- The text of a timestamp. -/
def text (t : Timestamp) : String :=
  let date := CivilDate.ofDay t.day
  let leap := if t.nano < 1000000000 then 0 else 1
  .ofList <|
    yearText date.year ++ '-' :: twoDigits date.month ++ '-' :: twoDigits date.day ++
    'T' :: twoDigits (t.second / 3600) ++ ':' :: twoDigits (t.second / 60 % 60) ++
    ':' :: twoDigits (t.second % 60 + leap) ++ fractionText (t.nano - 1000000000 * leap) ++ ['Z']

/-! ## Reading -/

/-- Leave out the blank characters in front. -/
def skipBlanks (cs : List Char) : List Char :=
  cs.dropWhile Text.isBlank

/-- A number of at least one digit and at most `width` digits. -/
def number? (width : Nat) (cs : List Char) : Option (Nat × List Char) :=
  let ds := (cs.take width).takeWhile Char.isDigit
  if ds.isEmpty then none else some (Decimal.ofDigits ds, cs.drop ds.length)

/-- A number behind blank characters. -/
def part? (width : Nat) (cs : List Char) : Option (Nat × List Char) :=
  number? width (skipBlanks cs)

/-- A mark behind blank characters. -/
def mark? (mark : Char) (cs : List Char) : Option (List Char) :=
  match skipBlanks cs with
  | c :: rest => if c = mark then some rest else none
  | [] => none

/-- A year: up to four digits, or a sign and any number of digits. -/
def year? (cs : List Char) : Option (Int × List Char) :=
  match skipBlanks cs with
  | '-' :: rest => (number? rest.length rest).map fun (n, rest) => (-(n : Int), rest)
  | '+' :: rest => (number? rest.length rest).map fun (n, rest) => ((n : Int), rest)
  | cs => (number? 4 cs).map fun (n, rest) => ((n : Int), rest)

/-- A date. -/
def date? (cs : List Char) : Option (CivilDate × List Char) := do
  let (year, cs) ← year? cs
  let cs ← mark? '-' cs
  let (month, cs) ← part? 2 cs
  let cs ← mark? '-' cs
  let (day, cs) ← part? 2 cs
  let date : CivilDate := ⟨year, month, day⟩
  if date.isValid then some (date, cs) else none

/-- The nanoseconds of a fraction; further digits than nine are passed over. -/
def fraction? : List Char → Option (Nat × List Char)
  | '.' :: cs =>
    let ds := cs.takeWhile Char.isDigit
    let kept := ds.take 9
    if ds.isEmpty then none
    else some (Decimal.ofDigits kept * Nat.pow 10 (9 - kept.length), cs.drop ds.length)
  | cs => some (0, cs)

/-- A time as the second of the day and the nanosecond; a sixtieth second prolongs the one before
it. -/
def time? (cs : List Char) : Option (Nat × Nat × List Char) := do
  let (hour, cs) ← part? 2 cs
  let cs ← mark? ':' cs
  let (minute, cs) ← part? 2 cs
  let cs ← mark? ':' cs
  let (second, cs) ← part? 2 cs
  let (nano, cs) ← fraction? cs
  if 24 ≤ hour ∨ 60 ≤ minute ∨ 60 < second then none
  else if second = 60 then some (hour * 3600 + minute * 60 + 59, nano + 1000000000, cs)
  else some (hour * 3600 + minute * 60 + second, nano, cs)

/-- A number of exactly two digits. -/
def twoDigits? : List Char → Option (Nat × List Char)
  | a :: b :: rest =>
    if a.isDigit && b.isDigit then some (Decimal.ofDigits [a, b], rest) else none
  | _ => none

/-- The hours and minutes behind the sign of an offset, in seconds. -/
def offsetWidth? (cs : List Char) : Option (Nat × List Char) := do
  let (hours, cs) ← twoDigits? cs
  let (minutes, cs) ← twoDigits? (cs.dropWhile fun c => c == ':' || Text.isBlank c)
  if 60 ≤ minutes then none else some (hours * 3600 + minutes * 60, cs)

/-- How many seconds a place is ahead of universal time. -/
def offset? (cs : List Char) : Option (Int × List Char) :=
  match cs with
  | 'Z' :: rest | 'z' :: rest => some (0, rest)
  | '+' :: rest => (offsetWidth? rest).map fun (n, rest) => ((n : Int), rest)
  | '-' :: rest | '−' :: rest => (offsetWidth? rest).map fun (n, rest) => (-(n : Int), rest)
  | a :: b :: c :: rest =>
    if [a, b, c].map Char.toLower = ['u', 't', 'c'] then some (0, rest) else none
  | _ => none

/-- The letter or the blank between the date and the time. -/
def isSeparator (c : Char) : Bool :=
  c == 't' || c == 'T' || c == ' '

/-- The timestamp that a text stands for. -/
def ofText? (text : String) : Option Timestamp := do
  let (date, cs) ← date? text.toList
  guard ((cs.take 1).any isSeparator)
  let (second, nano, cs) ← time? (cs.drop 1)
  let (offset, cs) ← offset? (skipBlanks cs)
  guard ((skipBlanks cs).isEmpty && offset.natAbs < 86400)
  -- the date of the place is in range before the time there is taken to universal time
  let _ ← ofParts? date.toDay 0 0
  let moved := (second : Int) - offset
  ofParts? (date.toDay + moved / 86400) (moved % 86400).toNat nano

end Timestamp
end TextSearch
