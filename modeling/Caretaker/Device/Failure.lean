import Caretaker.Policy.Codec

/-!
Failures on the device: codes of the platform, and what the caretaker itself refuses.
-/

namespace Caretaker.Device

/-- A code with which the platform reports a failure. -/
structure Code where
  value : Int
deriving Repr, DecidableEq

namespace Code

/-- A stored value does not fit where it should go. -/
def invalidLength : Code := ⟨4364⟩

/-- A server could not be reached. -/
def unreachable : Code := ⟨28674⟩

/-- The name of a code. -/
def name (c : Code) : String :=
  match c.value with
  | -1 => "ESP_FAIL"
  | 257 => "ESP_ERR_NO_MEM"
  | 258 => "ESP_ERR_INVALID_ARG"
  | 259 => "ESP_ERR_INVALID_STATE"
  | 263 => "ESP_ERR_TIMEOUT"
  | 4354 => "ESP_ERR_NVS_NOT_FOUND"
  | 4357 => "ESP_ERR_NVS_NOT_ENOUGH_SPACE"
  | 4364 => "ESP_ERR_NVS_INVALID_LENGTH"
  | 5379 => "ESP_ERR_OTA_VALIDATE_FAILED"
  | 28674 => "ESP_ERR_HTTP_CONNECT"
  | _ => "UNKNOWN ERROR"

/-- The name of a code with its number. -/
def describe (c : Code) : String :=
  c.name ++ " (error code " ++ toString c.value ++ ")"

end Code

/-- Why something on the device did not work. -/
inductive Failure where
  | platform (code : Code)
  /-- No policy is stored. -/
  | noPolicy
  /-- A stored or received text is not what it should be. -/
  | unreadable (error : Json.Error)
  | flawedPolicy (flaw : Policy.Flaw)
  /-- A server answered a request with another status than success. -/
  | refused (purpose : String) (status : Nat)
  | manifestTooLong (limit : Nat)
  | wrongSize (expected actual : Nat)
  | longName (ssid : String)
  | longPassword
deriving Repr, DecidableEq

/-- The text of a failure in log lines. What is wrong with a text is not told. -/
def Failure.text : Failure → String
  | .platform code => code.name
  | .noPolicy => "Config not found in NVS"
  | .unreadable _ => "<json error>"
  | .flawedPolicy flaw => flaw.message
  | .refused purpose status => "Failed to " ++ purpose ++ ": HTTP " ++ toString status
  | .manifestTooLong limit => "Manifest larger than " ++ toString limit ++ " bytes"
  | .wrongSize expected actual =>
    "Size mismatch: expected " ++ toString expected ++ " bytes, got " ++ toString actual
  | .longName ssid => "Invalid SSID format: " ++ ssid
  | .longPassword => "Invalid password format"

end Caretaker.Device
