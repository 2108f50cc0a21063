import Caretaker.Decimal.Shortest

/-!
How the digits of a decimal number are laid out as text: positionally while the leading digit is
near the point, and with an exponent otherwise.
-/

namespace Caretaker.Decimal

/-- The exponents of the leading digit, from the lowest to the highest, that are written without
an exponent.
-/
structure Layout where
  lowest : Int
  highest : Int
deriving Repr, DecidableEq

/-- The digits as text. A whole number keeps one zero after the point when it is positional, and
no point is written before an exponent unless digits follow it.
-/
def Layout.render (layout : Layout) (d : Digits) : String :=
  let digits := Nat.toDigits 10 d.digits
  let leading : Int := d.exponent + digits.length - 1
  if leading < layout.lowest || layout.highest < leading then
    let fraction := digits.drop 1
    String.ofList (digits.take 1 ++ if fraction.isEmpty then [] else '.' :: fraction)
      ++ "e" ++ toString leading
  else if 0 ≤ d.exponent then
    String.ofList (digits ++ List.replicate d.exponent.toNat '0') ++ ".0"
  else if 0 ≤ leading then
    let whole := (leading + 1).toNat
    String.ofList (digits.take whole ++ '.' :: digits.drop whole)
  else
    "0." ++ String.ofList (List.replicate (-leading - 1).toNat '0' ++ digits)

/-- The text of a finite floating-point number. -/
def Layout.ofFloat (layout : Layout) (x : Float) : String :=
  let b := Binary.ofFloat x
  (if b.negative then "-" else "")
    ++ if b.significand = 0 then "0.0" else layout.render (shortest b)

end Caretaker.Decimal
