import Caretaker.Text.Quoted

/-!
Values and the one text in which each of them is written: no blanks, members in the order in
which they are given, and escapes only where the format demands them.
-/

namespace Caretaker.Json

/-- A value to be written. -/
inductive Value where
  | flag (value : Bool)
  | whole (value : Int)
  | text (value : String)
  | list (items : List Value)
  | record (members : List (String × Value))

/-- How one character is written inside a text. -/
def escape (c : Char) : String :=
  match c with
  | '"' => "\\\""
  | '\\' => "\\\\"
  | '\x08' => "\\b"
  | '\x0c' => "\\f"
  | '\n' => "\\n"
  | '\r' => "\\r"
  | '\t' => "\\t"
  | c =>
    if c.toNat < 0x10 then "\\u000" ++ Text.hex c.toNat
    else if c.toNat < 0x20 then "\\u00" ++ Text.hex c.toNat
    else String.singleton c

/-- A text between quotes. -/
def quote (s : String) : String :=
  "\"" ++ String.join (s.toList.map escape) ++ "\""

mutual

/-- The text of a value. -/
def Value.render : Value → String
  | .flag b => if b then "true" else "false"
  | .whole n => toString n
  | .text s => quote s
  | .list items => "[" ++ Value.renderItems items ++ "]"
  | .record members => "\x7b" ++ Value.renderMembers members ++ "\x7d"

/-- The items of a list with commas between them. -/
def Value.renderItems : List Value → String
  | [] => ""
  | [v] => v.render
  | v :: rest => v.render ++ "," ++ Value.renderItems rest

/-- The members of a record with commas between them. -/
def Value.renderMembers : List (String × Value) → String
  | [] => ""
  | [(name, v)] => quote name ++ ":" ++ v.render
  | (name, v) :: rest => quote name ++ ":" ++ v.render ++ "," ++ Value.renderMembers rest

end

end Caretaker.Json
