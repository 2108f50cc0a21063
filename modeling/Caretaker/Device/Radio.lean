import Caretaker.Device.Platform

/-!
The radio joins one network at a time, as a station.
-/

namespace Caretaker.Device.Radio

open Attempted

/-- The origin of the log lines about the radio. -/
def origin : String := "wifi"

/-- No network in particular. -/
def unconfigured : Station :=
  ⟨"", "", .wpa2Personal, by decide, by decide⟩

/-- What the radio is told to join a network. A network without password is open. -/
def station (c : Provision.Credentials) : Except Failure Station :=
  if hs : c.ssid.utf8ByteSize ≤ ssidLimit then
    if hp : c.password.utf8ByteSize ≤ passwordLimit then
      .ok ⟨c.ssid, c.password, if c.password.isEmpty then .none else .wpa2Personal, hs, hp⟩
    else
      .error .longPassword
  else
    .error (.longName c.ssid)

/-- Bring the radio up without a network. -/
def start : Attempted Unit := do
  trying (ask (.call .createRadio))
  trying (ask (.call .wrapRadio))
  trying (ask (.call (.configureRadio unconfigured)))
  trying (ask (.call .startRadio))
  sure (say .info origin "WiFi station started")

/-- Join a network and wait for an address. -/
def join (c : Provision.Credentials) : Attempted Unit := do
  let station ← liftExcept (station c)
  trying (ask (.call (.configureRadio station)))
  sure (say .info origin ("Connecting to " ++ c.ssid ++ "..."))
  trying (ask (.call .connectRadio))
  trying (ask (.call .awaitAddress))
  let address ← trying (ask (.call .readAddress))
  sure (say .info origin ("WiFi connected, IP: " ++ address))

/-- The answer of a call, or no if it fails. -/
def confirmed (answer : Except Code Bool) : Bool :=
  match answer with
  | .ok b => b
  | .error _ => false

/-- Whether the radio is part of a network and has an address. -/
def isOnline : Program Platform Bool := do
  if confirmed (← ask (.call .isAssociated)) then
    return confirmed (← ask (.call .isUp))
  else
    return false

end Caretaker.Device.Radio
