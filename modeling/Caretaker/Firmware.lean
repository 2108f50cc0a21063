/-!
The firmware that a caretaker is part of.
-/

namespace Caretaker.Firmware

/-- The name of the firmware. -/
def name : String := "esp32-ota-supervisor"

/-- The version of the running firmware, as the server of releases knows it. -/
def version : String := "0.3.2"

/-- Name and version. -/
def title : String :=
  name ++ " v" ++ version

end Caretaker.Firmware
