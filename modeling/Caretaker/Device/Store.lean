import Caretaker.Device.Platform

/-!
What the device keeps across restarts: its settings, its policy and the marker of a deliberate
restart.
-/

namespace Caretaker.Device.Store

open Attempted

/-- The origin of the log lines about the store. -/
def origin : String := "storage"

/-- Where the settings are. -/
def settingsSpace : String := "settings"

/-- Where the policy and the marker are. -/
def ownSpace : String := "supervisor"

def policyKey : String := "config"

def markerKey : String := "reboot"

/-- The room for a setting, a policy and a marker. -/
def settingRoom : Nat := 4 * Provision.credentialLimit

def policyRoom : Nat := 1024

def markerRoom : Nat := 128

/-- Open a part of the store. -/
def openSpace (space : String) : Attempted Unit :=
  trying (ask (.call (.openStore space)))

/-- Look up a setting. -/
def lookUp (key : Provision.Key) : Program Platform Provision.Lookup := do
  return (← ask (.call (.readText settingsSpace key.name settingRoom))).mapError
    fun code => ⟨code.name⟩

/-- Write a text. -/
def write (key text : String) : Attempted Unit :=
  trying (ask (.call (.write ownSpace key text)))

/-- The stored policy. -/
def readPolicy : Attempted Policy := do
  match ← trying (ask (.call (.readBytes ownSpace policyKey policyRoom))) with
  | none => throw .noPolicy
  | some bytes =>
    match Policy.ofJson bytes with
    | .ok policy => return policy
    | .error (.unreadable e) => throw (.unreadable e)
    | .error (.flawed flaw) => throw (.flawedPolicy flaw)

/-- The stored policy, or the default one if that cannot be used. The default is stored then, so
that the next boot finds it.
-/
def loadPolicy : Attempted Policy := do
  openSpace ownSpace
  match ← sure readPolicy.run with
  | .ok policy =>
    sure (say .info origin "Loaded configuration from NVS")
    return policy
  | .error failure =>
    sure (say .warn origin ("Failed to load config from NVS: " ++ failure.text
      ++ ", using defaults"))
    let policy : Policy := {}
    match ← sure (write policyKey policy.toJson).run with
    | .ok _ => pure ()
    | .error failure =>
      sure (say .warn origin ("Failed to save default config to NVS: " ++ failure.text))
    return policy

/-- Leave a marker for the next boot. -/
def leaveMarker (marker : Reset.Marker) : Attempted Unit :=
  write markerKey marker.toJson

/-- Take the marker away. It is gone even if it cannot be read, so that it is reported once. -/
def takeMarker : Attempted (Option Reset.Marker) := do
  match ← trying (ask (.call (.readBytes ownSpace markerKey markerRoom))) with
  | none => return none
  | some bytes =>
    trying (ask (.call (.erase ownSpace markerKey)))
    match Reset.Marker.ofJson bytes with
    | .ok marker => return some marker
    | .error e => throw (.unreadable e)

end Caretaker.Device.Store
