import Caretaker.Json.Number
import Caretaker.Json.Text
import Caretaker.Text.Quoted

/-!
Single values of a known kind. A value of another kind is refused with a message that names what
was found and what was expected.
-/

namespace Caretaker.Json

/-- A value that stands where another kind was expected. -/
inductive Found where
  | null
  | flag (value : Bool)
  | number (value : Number)
  | text (value : String)
  | list
  | record

/-- How a number is named in a message. -/
def Number.describe : Number → String
  | .whole n => "integer `" ++ toString n ++ "`"
  | .real x => "floating point `" ++ layout.ofFloat x ++ "`"

/-- How a value is named in a message. -/
def Found.describe : Found → String
  | .null => "null"
  | .flag true => "boolean `true`"
  | .flag false => "boolean `false`"
  | .number n => n.describe
  | .text s => "string " ++ Text.quoted s
  | .list => "sequence"
  | .record => "map"

/-- A value of the wrong kind. -/
def Error.wrongKind (found : Found) (expected : String) : Error :=
  .unfit ("invalid type: " ++ found.describe ++ ", expected " ++ expected)

/-- A number of the right kind that is out of range. -/
def Error.outOfRange (value : Int) (expected : String) : Error :=
  .unfit ("invalid value: " ++ (Number.whole value).describe ++ ", expected " ++ expected)

/-- The names that would have been accepted. -/
def alternatives : List String → String
  | [a] => "`" ++ a ++ "`"
  | [a, b] => "`" ++ a ++ "` or `" ++ b ++ "`"
  | names => "one of " ++ String.intercalate ", " (names.map fun n => "`" ++ n ++ "`")

/-- A name that is none of those expected. -/
def Error.unknownName (name : String) (names : List String) : Error :=
  .unfit ("unknown variant `" ++ name ++ "`, expected " ++ alternatives names)

namespace Reader

variable {α : Type}

/-- What stands here, as far as a message names it. -/
def found : Reader Found := do
  match ← peek with
  | none => throw .malformed
  | some b =>
    if b = code 'n' then
      word "null".toList
      return .null
    else if b = code 't' then
      word "true".toList
      return .flag true
    else if b = code 'f' then
      word "false".toList
      return .flag false
    else if b = code '-' then
      advance
      return .number (← Number.read true)
    else if isDigit b then
      return .number (← Number.read false)
    else if b = code '"' then
      advance
      return .text (← textBody)
    else if b = code '[' then
      return .list
    else if b = code '{' then
      return .record
    else
      throw .malformed

/-- Refuse what stands here. -/
def refuse (expected : String) : Reader α := do
  throw (.wrongKind (← found) expected)

/-- The first byte of a value, which has to be there. -/
def start : Reader UInt8 := do
  match ← peekPastBlanks with
  | some b => return b
  | none => throw .truncated

/-- A number that has to be whole and between zero and a limit. -/
def within (limit : Nat) (expected : String) : Number → Reader Nat
  | .whole n =>
    if 0 ≤ n && n ≤ limit then
      return n.toNat
    else
      throw (.outOfRange n expected)
  | .real x => throw (.wrongKind (.number (.real x)) expected)

/-- A whole number between zero and a limit. -/
def natural (limit : Nat) (expected : String) : Reader Nat := do
  let b ← start
  if b = code '-' then
    advance
    within limit expected (← Number.read true)
  else if isDigit b then
    within limit expected (← Number.read false)
  else
    refuse expected

/-- A whole number of 32 bits. -/
def word32 : Reader UInt32 := do
  return UInt32.ofNat (← natural (UInt32.size - 1) "u32")

/-- How much of something there is, up to a limit. -/
def amount (limit : Nat) : Reader Nat :=
  natural limit "usize"

/-- One of the two truth values. -/
def flag : Reader Bool := do
  let b ← start
  if b = code 't' then
    word "true".toList
    return true
  else if b = code 'f' then
    word "false".toList
    return false
  else
    refuse "a boolean"

/-- A text, for which `expected` stands in messages. -/
def textAs (expected : String) : Reader String := do
  if (← start) = code '"' then
    advance
    textBody
  else
    refuse expected

/-- A text. -/
def text : Reader String :=
  textAs "a string"

/-- A value that may be left open by `null`. -/
def optional (reader : Reader α) : Reader (Option α) := do
  if (← peekPastBlanks) = some (code 'n') then
    word "null".toList
    return none
  else
    return some (← reader)

/-- The colon behind a name. -/
def colon : Reader Unit := do
  match ← peekPastBlanks with
  | none => throw .truncated
  | some b => if b = code ':' then advance else throw .malformed

/-- The value that a name stands for. -/
def named (cases : List (String × α)) (name : String) : Reader α :=
  match cases.lookup name with
  | some a => return a
  | none => throw (.unknownName name (cases.map Prod.fst))

/-- Nothing but `null`. -/
def null : Reader Unit := do
  if (← start) = code 'n' then
    word "null".toList
  else
    refuse "unit"

/-- One of several named values: its name, or a record with nothing but its name and `null`. -/
def choice (cases : List (String × α)) : Reader α := do
  let b ← start
  if b = code '"' then
    advance
    named cases (← textBody)
  else if b = code '{' then
    advance
    let a ← named cases (← textAs "variant identifier")
    colon
    null
    if (← start) = code '}' then
      advance
      return a
    else
      throw .malformed
  else
    throw .malformed

end Reader

end Caretaker.Json
