import Caretaker.Site

/-!
Joining the stored network. It is tried once and nothing in it is an error: without usable
credentials there is nothing to join, and a network that cannot be joined may be there next time.
-/

namespace Caretaker

/-- How an attempt to join ended. -/
inductive Joining where
  | alreadyOnline
  | noCredentials
  | joined
  | failed
deriving Repr, DecidableEq

namespace Joining

/-- The origin of the log lines about joining. -/
def origin : String := "connectivity"

/-- Join the stored network unless there is a connection already. -/
def attempt (isOnline : Bool) : Program Site Joining := do
  if isOnline then
    return .alreadyOnline
  match ← Provision.Credentials.load Site.setting with
  | .error fault =>
    say .warn origin ("Failed to read WiFi credentials: " ++ fault.text)
    return .noCredentials
  | .ok none =>
    say .debug origin "No WiFi credentials found"
    return .noCredentials
  | .ok (some credentials) =>
    say .debug origin ("Starting WiFi autojoin to '" ++ credentials.ssid ++ "'...")
    match ← Site.join credentials with
    | .ok _ =>
      say .info origin ("Joined WiFi network '" ++ credentials.ssid ++ "'")
      return .joined
    | .error fault =>
      say .warn origin ("Failed to join WiFi network '" ++ credentials.ssid ++ "': " ++ fault.text)
      return .failed

end Joining

end Caretaker
