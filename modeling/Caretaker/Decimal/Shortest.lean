import Caretaker.Decimal.Binary

/-!
The shortest decimal number that reads back as a given binary one. A decimal reads back exactly
if it lies in the interval of numbers that round to the binary one, and if a grid of decimals
has a point in that interval then one of the two neighbours of the value on that grid is in it.
-/

namespace Caretaker.Decimal

/-- The decimal number `digits * 10 ^ exponent`. -/
structure Digits where
  digits : Nat
  exponent : Int
deriving Repr, DecidableEq

namespace Digits

/-- The same number without zeros at the end of its digits. -/
def trim (digits : Nat) (exponent : Int) : Digits :=
  if digits ≠ 0 ∧ digits % 10 = 0 then
    trim (digits / 10) (exponent + 1)
  else
    ⟨digits, exponent⟩
termination_by digits
decreasing_by omega

end Digits

/-- A value and the ends of the interval that rounds to it, as fractions of one denominator. -/
structure Interval where
  low : Nat
  value : Nat
  high : Nat
  denominator : Nat
  /-- Whether the ends themselves round to the value. -/
  closed : Bool
deriving Repr, DecidableEq

namespace Interval

/-- The interval of a binary number, counted in units of `10 ^ exponent`. A quarter of the
distance to the next number is the finest unit that its ends need.
-/
def ofBinary (b : Binary) (exponent : Int) : Interval :=
  let quarter := b.exponent - 2
  let factor := Nat.pow 2 quarter.toNat * Nat.pow 10 (-exponent).toNat
  { low := (4 * b.significand - if b.isNarrowBelow then 1 else 2) * factor
    value := 4 * b.significand * factor
    high := (4 * b.significand + 2) * factor
    denominator := Nat.pow 2 (-quarter).toNat * Nat.pow 10 exponent.toNat
    closed := b.significand % 2 = 0 }

/-- Whether the whole number `n` lies in the interval. -/
def contains (i : Interval) (n : Nat) : Bool :=
  let point := n * i.denominator
  if i.closed then i.low ≤ point && point ≤ i.high else i.low < point && point < i.high

/-- The whole number of the interval next to the value, of the two neighbours of the value. An
exact tie goes to the even one.
-/
def nearest? (i : Interval) : Option Nat :=
  let below := i.value / i.denominator
  let part := 2 * (i.value % i.denominator)
  match i.contains below, i.contains (below + 1) with
  | false, false => none
  | true, false => some below
  | false, true => some (below + 1)
  | true, true =>
    if part < i.denominator || (part = i.denominator && below % 2 = 0) then
      some below
    else
      some (below + 1)

end Interval

/-- The power of ten of the leading digit of a positive number. -/
def leadingExponent (b : Binary) : Int :=
  let i := Interval.ofBinary b 0
  let guess : Int := (Nat.toDigits 10 i.value).length - (Nat.toDigits 10 i.denominator).length
  if Nat.pow 10 (-guess).toNat * i.value < Nat.pow 10 guess.toNat * i.denominator then
    guess - 1
  else
    guess

/-- The fewest digits that read back, and of those the nearest. Seventeen always suffice. -/
def shortest (b : Binary) : Digits :=
  let leading := leadingExponent b
  let found := (List.range 17).findSome? fun (n : Nat) =>
    (Interval.ofBinary b (leading - n)).nearest?.map (Digits.trim · (leading - n))
  found.getD ⟨0, 0⟩

end Caretaker.Decimal
