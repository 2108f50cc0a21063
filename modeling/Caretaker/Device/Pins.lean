import Caretaker.Device.Platform

/-!
The status lamp is wired to three pins, one for each channel.
-/

namespace Caretaker.Device.Pins

open Attempted

/-- The origin of the log lines about the lamp. -/
def origin : String := "led"

def redPin : Nat := 4

def greenPin : Nat := 5

def bluePin : Nat := 18

/-- Set one pin. -/
def setPin (pin : Nat) (level : Bool) : ExceptT Code (Program Platform) Unit :=
  ExceptT.mk (ask (.call (.setPin pin level)))

/-- Set all pins for a color, up to the first one that fails. -/
def apply (lamp : Lamp) : ExceptT Code (Program Platform) Unit := do
  let channels := lamp.channels
  setPin redPin channels.red
  setPin greenPin channels.green
  setPin bluePin channels.blue

/-- Take the pins into use, with the lamp off. -/
def start : Attempted Unit := do
  trying (ask (.call (.usePin redPin)))
  trying (ask (.call (.usePin greenPin)))
  trying (ask (.call (.usePin bluePin)))
  trying (apply .off).run

/-- Show a color. A failure is told and otherwise ignored. -/
def light (lamp : Lamp) : Program Platform Unit := do
  match ← (apply lamp).run with
  | .ok _ => pure ()
  | .error code =>
    say .warn origin ("Failed to set status LED to " ++ lamp.name ++ ": " ++ code.describe)

end Caretaker.Device.Pins
