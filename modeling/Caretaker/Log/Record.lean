/-!
Log records: how serious something is, where it comes from and what it says.
-/

namespace Caretaker.Log

/-- How serious a record is. -/
inductive Level where
  | error
  | warn
  | info
  | debug
  | trace
deriving Repr, DecidableEq

namespace Level

/-- The rank of a level: the more serious, the lower. -/
def rank : Level → Nat
  | .error => 1
  | .warn => 2
  | .info => 3
  | .debug => 4
  | .trace => 5

/-- The full name of a level. -/
def name : Level → String
  | .error => "ERROR"
  | .warn => "WARN"
  | .info => "INFO"
  | .debug => "DEBUG"
  | .trace => "TRACE"

/-- The letter of a level. -/
def letter : Level → String
  | .error => "E"
  | .warn => "W"
  | .info => "I"
  | .debug => "D"
  | .trace => "T"

end Level

/-- The least serious level that is kept. Nothing is kept below `none`. -/
abbrev Threshold := Option Level

/-- Whether records of a level are kept. -/
def Threshold.admits (threshold : Threshold) (level : Level) : Bool :=
  match threshold with
  | some least => level.rank ≤ least.rank
  | none => false

/-- One record. -/
structure Record where
  level : Level
  /-- The path of the place it comes from, with `::` between its parts. -/
  path : Option String
  message : String
deriving Repr, DecidableEq

/-- A reversed path up to the first pair of colons. -/
def uptoColons : List Char → List Char
  | ':' :: ':' :: _ => []
  | c :: rest => c :: uptoColons rest
  | [] => []

/-- The part of a path behind its last pair of colons. -/
def lastPart (path : String) : String :=
  String.ofList (uptoColons path.toList.reverse).reverse

/-- What a record is filed under: the last part of its path. -/
def Record.origin (record : Record) : String :=
  match record.path with
  | some path => lastPart path
  | none => "unknown"

end Caretaker.Log
