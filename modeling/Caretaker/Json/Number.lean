import Caretaker.Json.Reader
import Caretaker.Decimal.Layout

/-!
Numbers. A whole number between -2 ^ 63 and 2 ^ 64 - 1 without point or exponent is read exactly.
Every other number is a floating-point number: its first digits that fit in 64 bits are scaled
by a power of ten, and minus zero is one of them.
-/

namespace Caretaker.Json

/-- A number as it was read. -/
inductive Number where
  | whole (value : Int)
  | real (value : Float)

namespace Number

/-- The value of a digit. -/
def digitValue (b : UInt8) : Nat :=
  b.toNat - 48

/-- Append digits to a number up to the first one that would carry it past `limit`. What is left
over comes second.
-/
def absorb (limit : Nat) : Nat → List UInt8 → Nat × List UInt8
  | n, [] => (n, [])
  | n, d :: rest =>
    let next := n * 10 + digitValue d
    if next ≤ limit then absorb limit next rest else (n, d :: rest)

/-- The largest number of digits before the exponent. -/
def wholeLimit : Nat := UInt64.size - 1

/-- The largest exponent that is looked at. -/
def exponentLimit : Nat := UInt32.size / 2 - 1

/-- The powers of ten that floating-point numbers reach. -/
def powerLimit : Nat := 308

/-- A power of ten, rounded to the nearest floating-point number. -/
def power (n : Nat) : Float :=
  Float.ofScientific 1 false n

/-- Divide by a power of ten, in steps that stay within the powers of ten there are. -/
def shrink (x : Float) (n : Nat) : Float :=
  if n ≤ powerLimit then
    x / power n
  else if x == 0 then
    x
  else
    shrink (x / power powerLimit) (n - powerLimit)
termination_by n
decreasing_by simp only [powerLimit] at *; omega

/-- Digits times a power of ten. A number too large for floating point is refused. -/
def scaled (digits : Nat) (exponent : Int) : Except Error Float :=
  let x := digits.toUInt64.toFloat
  if exponent < 0 then
    .ok (shrink x exponent.natAbs)
  else if exponent.toNat ≤ powerLimit then
    let y := x * power exponent.toNat
    if y.isInf then .error .malformed else .ok y
  else if digits = 0 then
    .ok x
  else
    .error .malformed

/-- The floating-point number with the given sign. -/
def signed (negative : Bool) (x : Float) : Number :=
  .real (if negative then -x else x)

open Reader

/-- The exponent behind its mark, with digits already read before it. A power too large to be
looked at is refused above, unless all digits are zeros, and is zero below.
-/
def exponentPart (negative : Bool) (digits : Nat) (exponent : Int) : Reader Number := do
  advance
  let down ← match ← peek with
    | some b =>
      if b = code '-' then
        advance
        pure true
      else if b = code '+' then
        advance
        pure false
      else
        pure false
    | none => pure false
  match ← Reader.digits with
  | [] => if (← peek).isNone then throw .truncated else throw .malformed
  | ds =>
    match absorb exponentLimit 0 ds with
    | (n, []) =>
      let change : Int := if down then -n else n
      return signed negative (← scaled digits (exponent + change))
    | _ => if digits ≠ 0 && !down then throw .malformed else return signed negative 0

/-- Whether an exponent comes next. -/
def atExponent : Reader Bool := do
  match ← peek with
  | some b => return b = code 'e' || b = code 'E'
  | none => return false

/-- The digits behind the point. Those that no longer fit are passed over. -/
def fractionPart (negative : Bool) (digits : Nat) (exponent : Int) : Reader Number := do
  advance
  match ← Reader.digits with
  | [] => if (← peek).isNone then throw .truncated else throw .malformed
  | ds =>
    let (n, left) := absorb wholeLimit digits ds
    let exponent := exponent - (ds.length - left.length : Nat)
    if ← atExponent then
      exponentPart negative n exponent
    else
      return signed negative (← scaled n exponent)

/-- A number without point and exponent. -/
def ofWhole (negative : Bool) (digits : Nat) : Number :=
  if negative then
    if digits = 0 || UInt64.size / 2 < digits then
      signed true digits.toUInt64.toFloat
    else
      .whole (-(digits : Int))
  else
    .whole digits

/-- The number whose sign has been passed over. -/
def read (negative : Bool) : Reader Number := do
  match ← Reader.digits with
  | [] => if (← peek).isNone then throw .truncated else throw .malformed
  | ds =>
    if ds.head? = some (code '0') && 1 < ds.length then
      throw .malformed
    let (n, left) := absorb wholeLimit 0 ds
    if (← peek) = some (code '.') then
      fractionPart negative n left.length
    else if ← atExponent then
      exponentPart negative n left.length
    else if left.isEmpty then
      return ofWhole negative n
    else
      return signed negative (← scaled n left.length)

/-- Numbers in messages stand without exponent from 0.00001 up to sixteen digits. -/
def layout : Decimal.Layout := ⟨-5, 15⟩

end Number

end Caretaker.Json
