import TextSearch.Decimal

/-!
# Numerals in texts

A numeral is a whole number with an optional minus sign, perhaps followed by a fraction and an
exponent.  A numeral with neither is a whole number as long as it fits sixty-four bits (with its
sign); all others are doubles.

The digits of a double are collected in a number below `2 ^ 64`.  A digit that no longer fits only
moves the point, in the whole part, and ends the collection, in the fraction.  The double near the
collected number times its power of ten is the value, which may differ from the nearest double in
the last place.
-/

namespace TextSearch
namespace Json

/-- The value of a numeral. -/
inductive Numeral where
  | int (value : Int)
  | float (value : Float)
  /-- Greater than all doubles. -/
  | outOfRange
  deriving Repr

namespace Numeral

/-- The first number that does not fit. -/
def capacity : Nat := Nat.pow 2 64

/-- The number that the digits of the whole part collect to, and how many of them did not fit. -/
def wholePart (digits : List Char) : Nat × Nat :=
  digits.foldl (fun (units, extra) c =>
    let next := units * 10 + Decimal.digitValue c
    if extra = 0 ∧ next < capacity then (next, 0) else (units, extra + 1)) (0, 0)

/-- What has been collected, how many digits of the fraction it took, and whether a digit has been
met that did not fit. -/
structure Collected where
  units : Nat
  places : Nat
  full : Bool

/-- Collect the digits of the fraction. -/
def fractionPart (units : Nat) (digits : List Char) : Collected :=
  digits.foldl (fun found c =>
    let next := found.units * 10 + Decimal.digitValue c
    if found.full then found
    else if next < capacity then ⟨next, found.places + 1, false⟩
    else { found with full := true }) ⟨units, 0, false⟩

/-- The value of an exponent's digits; greater exponents than the limit make no difference. -/
def exponentValue (digits : List Char) : Nat :=
  digits.foldl (fun value c => min (value * 10 + Decimal.digitValue c) (Nat.pow 2 31)) 0

/-- An exponent without its mark: an optional sign and at least one digit. -/
def exponent? (cs : List Char) : Option (Int × List Char) :=
  let (negative, cs) :=
    match cs with
    | '-' :: rest => (true, rest)
    | '+' :: rest => (false, rest)
    | _ => (false, cs)
  let digits := cs.takeWhile Char.isDigit
  if digits.isEmpty then none
  else
    let value : Int := exponentValue digits
    some (if negative then -value else value, cs.dropWhile Char.isDigit)

/-- The double with the given sign near `units · 10 ^ exponent`. -/
def scaled (negative : Bool) (units : Nat) (exponent : Int) : Numeral :=
  match Decimal.nearby units exponent with
  | none => outOfRange
  | some x => float (if negative then -x else x)

/-- A numeral without fraction and exponent. -/
def whole (negative : Bool) (units extra : Nat) : Numeral :=
  if extra ≠ 0 then scaled negative units extra
  else if !negative then int units
  else if units = 0 ∨ Nat.pow 2 63 < units then scaled true units 0
  else int (-units)

/-- What may follow the digits of a double: an exponent. -/
def withExponent (negative : Bool) (units : Nat) (exponent : Int) (cs : List Char) :
    Option (Numeral × List Char) :=
  match cs with
  | 'e' :: rest | 'E' :: rest =>
    match exponent? rest with
    | none => none
    | some (more, rest) => some (scaled negative units (exponent + more), rest)
  | _ => some (scaled negative units exponent, cs)

/-- A numeral at the beginning of a text, behind its sign. -/
def unsigned? (negative : Bool) (cs : List Char) : Option (Numeral × List Char) :=
  let digits := cs.takeWhile Char.isDigit
  let rest := cs.dropWhile Char.isDigit
  if digits.isEmpty || (digits.head? == some '0' && digits.length != 1) then none
  else
    let (units, extra) := wholePart digits
    match rest with
    | '.' :: rest =>
      let fraction := rest.takeWhile Char.isDigit
      if fraction.isEmpty then none
      else
        let found := fractionPart units fraction
        withExponent negative found.units ((extra : Int) - found.places)
          (rest.dropWhile Char.isDigit)
    | 'e' :: _ | 'E' :: _ => withExponent negative units extra rest
    | _ => some (whole negative units extra, rest)

/-- A numeral at the beginning of a text. -/
def read? : List Char → Option (Numeral × List Char)
  | '-' :: rest => unsigned? true rest
  | cs => unsigned? false cs

end Numeral
end Json
end TextSearch
