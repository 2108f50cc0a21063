import Caretaker.Json.Scalar
import Caretaker.Json.Skip

/-!
Records with known members. A record is read into a draft in which every member may still be
open. It comes with named members in any order, among others that are passed over, or as a list
of the members by position.
-/

namespace Caretaker.Json

/-- A known member of a record that is read into a draft of type `δ`. -/
structure Member (δ : Type) where
  name : String
  /-- Whether a list that stops before this member is too short. -/
  isRequired : Bool
  /-- Whether the draft has this member already. -/
  isFilled : δ → Bool
  /-- Read the value into the draft. -/
  fill : δ → Reader δ

/-- A kind of record: how messages call it, and its members in order. -/
structure Shape (δ : Type) where
  title : String
  members : List (Member δ)

/-- A member that occurs twice. -/
def Error.duplicate (name : String) : Error :=
  .unfit ("duplicate field `" ++ name ++ "`")

/-- A member that has to be there and is not. -/
def Error.missing (name : String) : Error :=
  .unfit ("missing field `" ++ name ++ "`")

namespace Shape

variable {δ : Type}

open Reader

/-- A list that stops after `count` members. -/
def tooShort (shape : Shape δ) (count : Nat) : Error :=
  .unfit ("invalid length " ++ toString count ++ ", expected " ++ shape.title ++ " with "
    ++ toString shape.members.length ++ " elements")

/-- Read one member, whose opening quote has been passed over, into the draft. -/
def member (shape : Shape δ) (draft : δ) : Reader δ := do
  let name ← textBody
  match shape.members.find? (·.name = name) with
  | some m =>
    if m.isFilled draft then
      throw (.duplicate name)
    colon
    m.fill draft
  | none =>
    colon
    skipValue
    return draft

/-- The opening quote of the next name, or the closing brace. -/
def nextName (isFirst : Bool) : Reader Bool := do
  let b ← start
  if b = code '}' then
    advance
    return false
  else if b = code ',' && !isFirst then
    advance
    if (← start) = code '"' then
      advance
      return true
    else
      throw .malformed
  else if b = code '"' && isFirst then
    advance
    return true
  else
    throw .malformed

/-- Read members up to the closing brace. Every round takes at least one byte. -/
def membersIn (shape : Shape δ) : Nat → Bool → δ → Reader δ
  | 0, _, _ => throw .truncated
  | rounds + 1, isFirst, draft => do
    if ← nextName isFirst then
      shape.membersIn rounds false (← shape.member draft)
    else
      return draft

/-- Whether another item comes before the closing bracket, which stays where it is. -/
def nextItem (isFirst : Bool) : Reader Bool := do
  let b ← start
  if b = code ']' then
    return false
  else if isFirst then
    return true
  else if b = code ',' then
    advance
    if (← start) = code ']' then
      throw .malformed
    else
      return true
  else
    throw .malformed

/-- Read members by position, of which `count` have been read before. -/
def items (shape : Shape δ) : List (Member δ) → Nat → δ → Reader δ
  | [], _, draft => return draft
  | m :: rest, count, draft => do
    if ← nextItem (count = 0) then
      shape.items rest (count + 1) (← m.fill draft)
    else if m.isRequired then
      throw (shape.tooShort count)
    else
      shape.items rest (count + 1) draft

/-- Read a record into a draft that is empty at first. -/
def read (shape : Shape δ) (empty : δ) : Reader δ := do
  let b ← start
  if b = code '{' then
    advance
    shape.membersIn ((← get).length + 1) true empty
  else if b = code '[' then
    advance
    let draft ← shape.items shape.members 0 empty
    if (← start) = code ']' then
      advance
      return draft
    else
      throw .malformed
  else
    refuse shape.title

end Shape

end Caretaker.Json
