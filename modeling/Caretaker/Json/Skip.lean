import Caretaker.Json.Text

/-!
Values that nobody asks for are passed over: any value at any depth, as long as it is well
formed. Texts inside it need not be valid UTF-8 and numbers may be of any size.
-/

namespace Caretaker.Json.Reader

/-- Pass over a text up to its closing quote. Every round takes at least one byte, so one round for
each byte that is left suffices.
-/
def skipTextIn : List UInt8 → Reader Unit
  | [] => throw .truncated
  | _ :: rounds => do
    match ← peek with
    | none => throw .truncated
    | some b =>
      advance
      if b = code '"' then
        return
      else if b = code '\\' then
        match ← peek with
        | none => throw .truncated
        | some c =>
          advance
          if c = code 'u' then
            let _ ← hexEscape
            skipTextIn rounds
          else if (shortEscape? c).isSome then
            skipTextIn rounds
          else
            throw .malformed
      else if b < 0x20 then
        throw .malformed
      else
        skipTextIn rounds

/-- Pass over a text whose opening quote has been passed over. -/
def skipText : Reader Unit := do
  skipTextIn (← get)

/-- Pass over one digit or more. -/
def skipDigits : Reader Unit := do
  if (← digits).isEmpty then
    throw .malformed

/-- Pass over an exponent, if there is one. -/
def skipExponent : Reader Unit := do
  match ← peek with
  | some b =>
    if b = code 'e' || b = code 'E' then
      advance
      match ← peek with
      | some sign => if sign = code '+' || sign = code '-' then advance
      | none => pure ()
      skipDigits
  | none => pure ()

/-- Pass over a number whose sign has been passed over. -/
def skipNumber : Reader Unit := do
  match ← digits with
  | [] => throw .malformed
  | ds =>
    if ds.head? = some (code '0') && 1 < ds.length then
      throw .malformed
    if (← peek) = some (code '.') then
      advance
      skipDigits
    skipExponent

/-- What follows a member or item: another one after a comma, or the closing bracket. -/
def another (closing : UInt8) : Reader Bool := do
  match ← peekPastBlanks with
  | none => throw .truncated
  | some b =>
    if b = code ',' then
      advance
      return true
    else if b = closing then
      advance
      return false
    else
      throw .malformed

/-- Whether a bracket that has just been opened is closed at once. -/
def closesAtOnce (closing : UInt8) : Reader Bool := do
  match ← peekPastBlanks with
  | none => throw .truncated
  | some b =>
    if b = closing then
      advance
      return true
    else
      return false

/-- Pass over the name of a member and the colon behind it. -/
def skipName : Reader Unit := do
  match ← peekPastBlanks with
  | none => throw .truncated
  | some b =>
    if b = code '"' then
      advance
      skipText
      match ← peekPastBlanks with
      | none => throw .truncated
      | some c => if c = code ':' then advance else throw .malformed
    else
      throw .malformed

mutual

/-- Pass over one value. Every round takes at least one byte. -/
def skipValueIn : Nat → Reader Unit
  | 0 => throw .truncated
  | rounds + 1 => do
    match ← peekPastBlanks with
    | none => throw .truncated
    | some b =>
      if b = code 'n' then
        word "null".toList
      else if b = code 't' then
        word "true".toList
      else if b = code 'f' then
        word "false".toList
      else if b = code '-' then
        advance
        skipNumber
      else if isDigit b then
        skipNumber
      else if b = code '"' then
        advance
        skipText
      else if b = code '[' then
        advance
        if !(← closesAtOnce (code ']')) then
          skipItems rounds
      else if b = code '{' then
        advance
        if !(← closesAtOnce (code '}')) then
          skipMembers rounds
      else
        throw .malformed

/-- Pass over the items of a list up to its closing bracket. -/
def skipItems : Nat → Reader Unit
  | 0 => throw .truncated
  | rounds + 1 => do
    skipValueIn rounds
    if ← another (code ']') then
      skipItems rounds

/-- Pass over the members of a record up to its closing brace. -/
def skipMembers : Nat → Reader Unit
  | 0 => throw .truncated
  | rounds + 1 => do
    skipName
    skipValueIn rounds
    if ← another (code '}') then
      skipMembers rounds

end

/-- Pass over one value. -/
def skipValue : Reader Unit := do
  skipValueIn (2 * (← get).length + 2)

end Caretaker.Json.Reader
