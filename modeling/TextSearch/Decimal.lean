/-!
# Decimals

The digits of a natural number stand most significant first, with or without zeros in front.

A finite double is a whole number times a power of two.  The printers of decimals work on this form
in exact arithmetic.  A decimal with a given number of places is the exact value of the double
rounded once, to the nearest decimal, a half to the even last digit.  The shortest decimal is, of
all that are nearer to the double than to its neighbours, the one with the fewest digits, and among
those the nearest.

The other way round, a decimal given by whole units and a power of ten is turned into a double by
one multiplication or division, with a further division for powers below `10 ^ (-308)`.  The result
may differ from the nearest double in the last place.  Magnitudes beyond all doubles have no result.
-/

namespace TextSearch
namespace Decimal

/-! ## Digits -/

/-- The decimal digits of a number. -/
def digits (n : Nat) : List Char :=
  Nat.toDigits 10 n

/-- Digits filled up with zeros in front. -/
def padded (width : Nat) (ds : List Char) : List Char :=
  List.replicate (width - ds.length) '0' ++ ds

/-- The value of a decimal digit. -/
def digitValue (c : Char) : Nat :=
  c.toNat - '0'.toNat

/-- The number that digits stand for. -/
def ofDigits (ds : List Char) : Nat :=
  ds.foldl (fun n c => n * 10 + digitValue c) 0

/-! ## A double near a decimal -/

/-- The double nearest to a power of ten. -/
def powerOfTen (k : Nat) : Float :=
  Float.ofScientific 1 false k

/-- Divide by a power of ten. -/
def divideByTens (x : Float) (k : Nat) : Float :=
  if 308 < k then
    if x == 0 then x else divideByTens (x / powerOfTen 308) (k - 308)
  else x / powerOfTen k
  termination_by k
  decreasing_by omega

/-- A double near `units · 10 ^ exponent`, if that is in the range of doubles. -/
def nearby (units : Nat) (exponent : Int) : Option Float :=
  let x := Float.ofNat units
  if exponent < 0 then some (divideByTens x (-exponent).toNat)
  else if x == 0 then some x
  else if 308 < exponent then none
  else
    let y := x * powerOfTen exponent.toNat
    if y.isInf then none else some y

/-! ## Doubles as fractions -/

/-- The magnitude `mantissa · 2 ^ exponent`. -/
structure Magnitude where
  mantissa : Nat
  exponent : Int
  /-- The next smaller double is only half as far away as the next greater one. -/
  atPowerOfTwo : Bool
  deriving Repr

/-- What a double stands for. -/
inductive Double where
  | finite (negative : Bool) (magnitude : Magnitude)
  | infinite (negative : Bool)
  | notANumber
  deriving Repr

/-- The double with the given bits: a sign, eleven bits of exponent, fifty-two of fraction. -/
def Double.ofBits (bits : Nat) : Double :=
  let negative := bits / Nat.pow 2 63 % 2 == 1
  let exponent : Nat := bits / Nat.pow 2 52 % Nat.pow 2 11
  let fraction := bits % Nat.pow 2 52
  if exponent = 2047 then
    if fraction = 0 then .infinite negative else .notANumber
  else if exponent = 0 then .finite negative ⟨fraction, -1074, false⟩
  else
    .finite negative
      ⟨Nat.pow 2 52 + fraction, (exponent : Int) - 1075, fraction == 0 && exponent != 1⟩

/-- What a double stands for. -/
def Double.ofFloat (x : Float) : Double :=
  .ofBits x.toBits.toNat

namespace Magnitude

/-- The magnitude is the quotient of this number and `denominator`. -/
def numerator (m : Magnitude) : Nat :=
  m.mantissa * Nat.pow 2 m.exponent.toNat

/-- The magnitude is the quotient of `numerator` and this number. -/
def denominator (m : Magnitude) : Nat :=
  Nat.pow 2 (-m.exponent).toNat

end Magnitude

/-! ## Quotients in decimal notation -/

/-- The greatest `k` with `10 ^ k ≤ n / d`, for a positive quotient. -/
def leadingExponent (n d : Nat) : Int :=
  if d ≤ n then ((digits (n / d)).length : Int) - 1
  else -((digits ((d - 1) / n)).length : Int)

/-- The quotient rounded to the nearest whole number; a half goes to the even neighbour. -/
def roundedQuotient (n d : Nat) : Nat :=
  let q := n / d
  let twice := 2 * (n % d)
  if twice < d ∨ (twice = d ∧ q % 2 = 0) then q else q + 1

/-- The quotient `n / d` times `10 ^ k`, as a fraction. -/
def scaleByTen (n d : Nat) (k : Int) : Nat × Nat :=
  (n * Nat.pow 10 k.toNat, d * Nat.pow 10 (-k).toNat)

/-! ## Decimals with a given number of places -/

/-- Put a minus sign before a negative number. -/
def signed (negative : Bool) (ds : List Char) : String :=
  .ofList (if negative then '-' :: ds else ds)

/-- Where the digits of a decimal with a given number of places stand. -/
inductive Layout where
  /-- The point stands behind the units. -/
  | positional
  /-- The point stands behind the first digit, and the exponent behind all of them, without plus
  sign or padding. -/
  | scientific

/-- Digits with a point before the last places, if there are any. -/
def pointed (places : Nat) (ds : List Char) : List Char :=
  let whole := ds.take (ds.length - places)
  if places = 0 then whole else whole ++ '.' :: ds.drop (ds.length - places)

/-- A magnitude rounded to the given number of places behind the point. -/
def Magnitude.rounded (m : Magnitude) (places : Nat) : Layout → List Char
  | .positional =>
    let units := roundedQuotient (m.numerator * Nat.pow 10 places) m.denominator
    pointed places (padded (places + 1) (digits units))
  | .scientific =>
    let (units, exponent) :=
      if m.mantissa = 0 then (0, (0 : Int))
      else
        let k := leadingExponent m.numerator m.denominator
        let (n, d) := scaleByTen m.numerator m.denominator (places - k)
        let units := roundedQuotient n d
        if units = Nat.pow 10 (places + 1) then (Nat.pow 10 places, k + 1) else (units, k)
    pointed places (padded (places + 1) (digits units)) ++ 'e' :: exponent.repr.toList

/-- A double in the given layout. -/
def written (layout : Layout) (places : Nat) (x : Float) : String :=
  match Double.ofFloat x with
  | .notANumber => "NaN"
  | .infinite negative => signed negative "inf".toList
  | .finite negative m => signed negative (m.rounded places layout)

/-- Positional notation with the given number of places behind the point. -/
def fixed (places : Nat) (x : Float) : String :=
  written .positional places x

/-- Scientific notation with the given number of places behind the point. -/
def scientific (places : Nat) (x : Float) : String :=
  written .scientific places x

/-! ## The shortest decimal

The decimals with `n` digits form a grid, and if the interval that belongs to the double holds any
of its points, it holds one of the two neighbours of the double on the grid; so it is enough to look
at two candidates for each number of digits. -/

/-- The decimal `units · 10 ^ exponent`. -/
structure Scaled where
  units : Nat
  exponent : Int
  deriving Repr

/-- The decimal belongs to the interval around the magnitude: it reads back as the same double.  The
ends of the interval lie half-way to the neighbours and belong to it if the mantissa is even. -/
def belongs (m : Magnitude) (s : Scaled) : Bool :=
  let (n, d) := scaleByTen s.units 1 s.exponent
  -- all quantities are multiplied by four, the greatest common denominator of the ends
  let value := 4 * n * m.denominator
  let unit := d * Nat.pow 2 m.exponent.toNat
  let low := (if m.atPowerOfTwo then 4 * m.mantissa - 1 else 4 * m.mantissa - 2) * unit
  let high := (4 * m.mantissa + 2) * unit
  if m.mantissa % 2 = 0 then low ≤ value && value ≤ high else low < value && value < high

/-- The neighbours of the magnitude among the decimals with `n` digits, the nearer one first; at the
same distance, the even one. -/
def neighbours (m : Magnitude) (n : Nat) : List Scaled :=
  let k := leadingExponent m.numerator m.denominator
  let exponent := k + 1 - n
  let (num, den) := scaleByTen m.numerator m.denominator (-exponent)
  let near := roundedQuotient num den
  let below := num / den
  let far := if near = below then below + 1 else below
  [⟨near, exponent⟩, ⟨far, exponent⟩]

/-- Move the zeros at the end of the units into the exponent. -/
def stripped (s : Scaled) : Scaled :=
  let zeros := ((digits s.units).reverse.takeWhile (· == '0')).length
  ⟨s.units / Nat.pow 10 zeros, s.exponent + zeros⟩

/-- The shortest decimal for a positive magnitude; seventeen digits are always enough. -/
def shortest (m : Magnitude) : Scaled :=
  let candidates := (List.range 17).flatMap fun n => neighbours m (n + 1)
  stripped ((candidates.find? (belongs m)).getD ⟨m.mantissa, 0⟩)

/-- The notation for numbers of data formats: positional while the point lies at most sixteen digits
behind the first digit or five zeros before it, and always with a digit on both sides of the point;
otherwise with an exponent, which has a sign in both directions. -/
def plain (x : Float) : Option String :=
  match Double.ofFloat x with
  | .notANumber => none
  | .infinite _ => none
  | .finite negative m =>
    if m.mantissa = 0 then some (signed negative "0.0".toList)
    else
      let s := shortest m
      let ds := digits s.units
      let point : Int := ds.length + s.exponent
      some <| signed negative <|
        if 0 ≤ s.exponent ∧ point ≤ 16 then
          ds ++ List.replicate s.exponent.toNat '0' ++ ['.', '0']
        else if 0 < point ∧ point ≤ 16 then ds.take point.toNat ++ '.' :: ds.drop point.toNat
        else if -5 < point ∧ point ≤ 0 then
          '0' :: '.' :: List.replicate (-point).toNat '0' ++ ds
        else
          let fraction := if ds.length = 1 then ds else ds.take 1 ++ '.' :: ds.drop 1
          fraction ++ 'e' :: (if 0 < point then '+' else '-') :: digits (point - 1).natAbs

end Decimal
end TextSearch
