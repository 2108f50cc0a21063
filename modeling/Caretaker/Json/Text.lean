import Caretaker.Json.Reader
import Caretaker.Text.Utf8

/-!
Texts between double quotes. A text that is used has to be valid UTF-8 once its escapes are
resolved, and its escaped surrogates have to come in pairs.
-/

namespace Caretaker.Json

/-- The value of a digit in base sixteen. -/
def hexValue? (b : UInt8) : Option Nat :=
  if isDigit b then
    some (b.toNat - 48)
  else if code 'a' ≤ b && b ≤ code 'f' then
    some (b.toNat - 87)
  else if code 'A' ≤ b && b ≤ code 'F' then
    some (b.toNat - 55)
  else
    none

/-- The number written by four digits in base sixteen. -/
def fourHex? (a b c d : UInt8) : Option Nat := do
  return ((← hexValue? a) * 16 + (← hexValue? b)) * 256 + (← hexValue? c) * 16 + (← hexValue? d)

namespace Reader

/-- The four digits behind `\u`. -/
def hexEscape : Reader Nat := fun text =>
  match text with
  | a :: b :: c :: d :: rest =>
    match fourHex? a b c d with
    | some n => .ok (n, rest)
    | none => .error .malformed
  | _ => .error .truncated

/-- The next byte, which has to be `b`. -/
def expect (b : UInt8) : Reader Unit := do
  match ← peek with
  | none => throw .truncated
  | some found => if found = b then advance else throw .malformed

/-- The character of an escape by number, whose first number has been read as `n`. -/
def surrogate (n : Nat) : Reader Char := do
  if 0xdc00 ≤ n && n ≤ 0xdfff then
    throw .malformed
  else if 0xd800 ≤ n && n ≤ 0xdbff then
    expect (code '\\')
    expect (code 'u')
    let low ← hexEscape
    if 0xdc00 ≤ low && low ≤ 0xdfff then
      return Char.ofNat ((n - 0xd800) * 0x400 + (low - 0xdc00) + 0x10000)
    else
      throw .malformed
  else
    return Char.ofNat n

/-- The characters that stand for themselves or for a control character behind a backslash. -/
def shortEscape? (b : UInt8) : Option Char :=
  if b = code '"' then some '"'
  else if b = code '\\' then some '\\'
  else if b = code '/' then some '/'
  else if b = code 'b' then some '\x08'
  else if b = code 'f' then some '\x0c'
  else if b = code 'n' then some '\n'
  else if b = code 'r' then some '\r'
  else if b = code 't' then some '\t'
  else none

/-- The character behind a backslash. -/
def escaped : Reader Char := do
  match ← peek with
  | none => throw .truncated
  | some b =>
    advance
    if b = code 'u' then
      surrogate (← hexEscape)
    else
      match shortEscape? b with
      | some c => return c
      | none => throw .malformed

/-- The bytes of a text up to its closing quote, with escapes resolved. Every round takes at
least one byte, so one round for each byte that is left suffices.
-/
def textBytes : List UInt8 → Reader (List UInt8)
  | [] => throw .truncated
  | _ :: rounds => do
    match ← peek with
    | none => throw .truncated
    | some b =>
      advance
      if b = code '"' then
        return []
      else if b = code '\\' then
        let c ← escaped
        return Text.toBytes (String.singleton c) ++ (← textBytes rounds)
      else if b < 0x20 then
        throw .malformed
      else
        return b :: (← textBytes rounds)

/-- A text whose opening quote has been passed over. -/
def textBody : Reader String := do
  let bytes ← textBytes (← get)
  match Text.ofBytes? bytes with
  | some s => return s
  | none => throw .malformed

end Reader

end Caretaker.Json
