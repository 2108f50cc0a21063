/-!
Readers walk over the bytes of a JSON text and either hand back a value together with the bytes
after it, or say why there is none: the text ends too early, it is not JSON, or it is JSON that
does not fit what is expected there.
-/

namespace Caretaker.Json

/-- Why a text could not be read. -/
inductive Error where
  /-- The text ends inside a value. -/
  | truncated
  /-- The text is not JSON at the place where it was read. -/
  | malformed
  /-- The text holds something else than expected. -/
  | unfit (reason : String)
deriving Repr, DecidableEq

/-- A reader of one value at the front of a text. -/
abbrev Reader := StateT (List UInt8) (Except Error)

/-- The code of an ASCII character. -/
abbrev code (c : Char) : UInt8 := c.toNat.toUInt8

/-- Blanks are spaces, tabs and line ends. -/
def isBlank (b : UInt8) : Bool :=
  b = code ' ' || b = code '\n' || b = code '\t' || b = code '\r'

/-- A decimal digit. -/
def isDigit (b : UInt8) : Bool :=
  code '0' ≤ b && b ≤ code '9'

namespace Reader

/-- The next byte, which stays where it is. -/
def peek : Reader (Option UInt8) := fun text =>
  .ok (text.head?, text)

/-- The next byte after blanks. The blanks are passed over, the byte stays. -/
def peekPastBlanks : Reader (Option UInt8) := fun text =>
  let rest := text.dropWhile isBlank
  .ok (rest.head?, rest)

/-- Pass over one byte. -/
def advance : Reader Unit := fun text =>
  .ok ((), text.tail)

/-- Take the digits at the front. -/
def digits : Reader (List UInt8) := fun text =>
  .ok (text.takeWhile isDigit, text.dropWhile isDigit)

/-- Pass over exactly these characters. -/
def word : List Char → Reader Unit
  | [] => pure ()
  | c :: rest => do
    match ← peek with
    | none => throw .truncated
    | some b =>
      if b = code c then
        advance
        word rest
      else
        throw .malformed

/-- A text that holds one value and nothing but blanks after it. -/
def decode {α : Type} (reader : Reader α) (text : List UInt8) : Except Error α :=
  match reader text with
  | .error e => .error e
  | .ok (value, rest) =>
    if (rest.dropWhile isBlank).isEmpty then .ok value else .error .malformed

end Reader

end Caretaker.Json
