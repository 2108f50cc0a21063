import Caretaker.Json.Scalar
import Caretaker.Json.Value

/-!
The status lamp: one color for each state that a person beside the device should see.
-/

namespace Caretaker

/-- What the status lamp shows. -/
inductive Lamp where
  /-- Offline, or the last check failed. -/
  | red
  /-- The firmware is up to date. -/
  | green
  /-- New firmware is being fetched. -/
  | blue
  /-- Nothing has been decided yet. -/
  | off
deriving Repr, DecidableEq

instance : Inhabited Lamp where
  default := .off

namespace Lamp

/-- The name of a color. -/
def name : Lamp → String
  | .red => "Red"
  | .green => "Green"
  | .blue => "Blue"
  | .off => "Off"

/-- The levels of the red, green and blue channel. -/
structure Channels where
  red : Bool
  green : Bool
  blue : Bool
deriving Repr, DecidableEq

/-- A color lights its own channel and no other. -/
def channels : Lamp → Channels
  | .red => ⟨true, false, false⟩
  | .green => ⟨false, true, false⟩
  | .blue => ⟨false, false, true⟩
  | .off => ⟨false, false, false⟩

/-- The colors by name. -/
def names : List (String × Lamp) :=
  [("Red", .red), ("Green", .green), ("Blue", .blue), ("Off", .off)]

/-- The color named by a text. -/
def ofJson (text : List UInt8) : Except Json.Error Lamp :=
  Json.Reader.decode (Json.Reader.choice names) text

/-- The text that names a color. -/
def toJson (lamp : Lamp) : String :=
  (Json.Value.text lamp.name).render

end Lamp

end Caretaker
