/-!
The exact value of a finite binary floating-point number: a sign, a whole number and a power of
two.
-/

namespace Caretaker.Decimal

/-- The number `± significand * 2 ^ exponent`. -/
structure Binary where
  negative : Bool
  significand : Nat
  exponent : Int
deriving Repr, DecidableEq

namespace Binary

/-- The least exponent, that of the numbers next to zero. -/
def leastExponent : Int := -1074

/-- The leading one of a significand, in front of the fifty-two bits of the fraction. -/
def leadingOne : Nat := 0x10000000000000

/-- The number of exponents. -/
def exponents : Nat := 0x800

/-- The number held by a finite 64-bit word: one sign bit, eleven of the exponent and fifty-two
of the fraction, with a leading one before the fraction unless the exponent field is zero.
-/
def ofFloat (x : Float) : Binary :=
  let word := x.toBits.toNat
  let negative := leadingOne * exponents ≤ word
  let fraction := word % leadingOne
  let field := word / leadingOne % exponents
  if field = 0 then
    ⟨negative, fraction, leastExponent⟩
  else
    ⟨negative, leadingOne + fraction, leastExponent + (field - 1 : Nat)⟩

/-- Whether the next smaller number is only half as far away as the next larger one. -/
def isNarrowBelow (b : Binary) : Bool :=
  b.significand = leadingOne && leastExponent < b.exponent

end Binary

end Caretaker.Decimal
