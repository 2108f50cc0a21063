import Caretaker.Log.Record
import Caretaker.Text.Column

/-!
Records on the console: one colored line each, with the time since boot, the letter of the level
and the origin in a column of fixed width.
-/

namespace Caretaker.Log.Console

/-- The width of the column of origins. -/
def originWidth : Nat := 12

/-- Back to the plain color. -/
def reset : String := "\x1b[0m"

/-- The color of a level. -/
def color : Level → String
  | .error => "\x1b[91m"
  | .warn => "\x1b[93m"
  | .info => "\x1b[92m"
  | .debug => "\x1b[94m"
  | .trace => "\x1b[90m"

/-- A number behind blanks or zeros. -/
def padded (width : Nat) (fill : Char) (n : Nat) : String :=
  Text.alignRight width fill (toString n)

/-- The time since boot: seconds and milliseconds in the first minute, minutes and seconds in the
first hour, hours and minutes from then on.
-/
def stamp (millis : Nat) : String :=
  let seconds := millis / 1000
  if seconds < 60 then
    padded 3 ' ' seconds ++ "." ++ padded 3 '0' (millis % 1000) ++ "s"
  else if seconds < 3600 then
    padded 2 ' ' (seconds / 60) ++ "m" ++ padded 2 '0' (seconds % 60) ++ "s"
  else
    padded 2 ' ' (seconds / 3600) ++ "h" ++ padded 2 '0' (seconds % 3600 / 60) ++ "m"

/-- The column of origins. -/
def originColumn (origin : String) : String :=
  Text.alignRight originWidth ' ' (Text.cut originWidth origin)

/-- A record without color and time. -/
def plain (record : Record) : String :=
  "[" ++ record.level.letter ++ "] " ++ originColumn record.origin ++ " | " ++ record.message

/-- A record as it is printed, behind a given time. -/
def line (time : String) (record : Record) : String :=
  color record.level ++ time ++ " " ++ plain record ++ reset

/-- What is printed when the console is opened. -/
def banner : List String :=
  ["┌─────────────────────────────────────────┐",
   "│      ESP32 OTA Supervisor Logger        │",
   "└─────────────────────────────────────────┘"].map fun s => color .info ++ s ++ reset

end Caretaker.Log.Console
