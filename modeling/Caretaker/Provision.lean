import Caretaker.Text.Quoted
import Caretaker.Report

/-!
What the factory stores on a device: the network to join and where releases come from. Whoever
reads it passes a way to look up one setting, which may fail.
-/

namespace Caretaker.Provision

/-- A stored setting. -/
inductive Key where
  | ssid
  | password
  | projectKey
  | chunksUrl
  | deviceUrl
deriving Repr, DecidableEq

/-- The name under which a setting is stored. -/
def Key.name : Key → String
  | .ssid => "wifi_ssid"
  | .password => "wifi_password"
  | .projectKey => "project_key"
  | .chunksUrl => "chunks_url"
  | .deviceUrl => "device_url"

/-- What looking up a setting gives. A setting that is not stored is no failure. -/
abbrev Lookup := Except Fault (Option String)

/-- Settings as they are stored: by name, the text or the way in which reading it fails. -/
abbrev Stored := List (String × Except Fault String)

/-- Look up a stored setting. -/
def Stored.lookUp (stored : Stored) (key : Key) : Lookup :=
  match stored.lookup key.name with
  | some (.ok s) => .ok (some s)
  | some (.error fault) => .error fault
  | none => .ok none

/-- The longest network name or password in bytes. -/
def credentialLimit : Nat := 64

/-- Whether a stored text can be a network name or a password. -/
def isUsable (s : String) : Bool :=
  !s.isEmpty && s.utf8ByteSize ≤ credentialLimit

/-- A network and its password. -/
structure Credentials where
  ssid : String
  password : String
deriving DecidableEq

namespace Credentials

/-- A text for log lines, which tells nothing about the password but whether there is one. -/
def describe (c : Credentials) : String :=
  "WifiCredentials \x7b ssid: " ++ Text.quoted c.ssid ++ ", password: "
    ++ Text.quoted (if c.password.isEmpty then "<empty>" else "<set>") ++ " \x7d"

/-- The credentials made of two stored texts, if both are there and usable. -/
def ofStored? (ssid password : Option String) : Option Credentials :=
  match ssid.filter isUsable, password.filter isUsable with
  | some ssid, some password => some ⟨ssid, password⟩
  | _, _ => none

/-- Look up the stored credentials. The password is not looked at if the name cannot be read. -/
def load {m : Type → Type} [Monad m] (lookup : Key → m Lookup)
    : m (Except Fault (Option Credentials)) := do
  match ← lookup .ssid with
  | .error fault => return .error fault
  | .ok ssid =>
    match ← lookup .password with
    | .error fault => return .error fault
    | .ok password => return .ok (ofStored? ssid password)

end Credentials

/-- Where releases come from, as far as that differs from the default. -/
structure Backend where
  projectKey : Option String := none
  chunksHost : Option String := none
  deviceHost : Option String := none
deriving Repr, DecidableEq

namespace Backend

/-- A stored text that says something. -/
def nonEmpty (stored : Option String) : Option String :=
  stored.filter (!·.isEmpty)

/-- A setting that may be missing, in words for log lines. -/
def describeSetting : Option String → String
  | some s => "Some(" ++ Text.quoted s ++ ")"
  | none => "None"

/-- A text for log lines. -/
def describe (b : Backend) : String :=
  "BackendConfig \x7b project_key: " ++ describeSetting b.projectKey
    ++ ", chunks_host: " ++ describeSetting b.chunksHost
    ++ ", device_host: " ++ describeSetting b.deviceHost ++ " \x7d"

/-- The origin of the log lines about settings. -/
def origin : String := "settings"

/-- A line in the log if a setting could not be read. -/
def warnUnread {S : Signature} [Reports S] (what : String) (lookup : Lookup) : Program S Unit :=
  match lookup with
  | .ok _ => pure ()
  | .error fault => say .warn origin ("Failed to read " ++ what ++ ": " ++ fault.text)

/-- Look up where releases come from. The two hosts are taken only if both can be read, so that
the device never talks to a mixed pair.
-/
def load {S : Signature} [Reports S] (lookup : Key → Program S Lookup) : Program S Backend := do
  let key ← lookup .projectKey
  warnUnread "project key" key
  let chunks ← lookup .chunksUrl
  let device ← lookup .deviceUrl
  warnUnread "chunks URL" chunks
  warnUnread "device URL" device
  let projectKey := match key with
    | .ok stored => nonEmpty stored
    | .error _ => none
  match chunks, device with
  | .ok chunks, .ok device => return ⟨projectKey, nonEmpty chunks, nonEmpty device⟩
  | _, _ => return ⟨projectKey, none, none⟩

end Backend

end Caretaker.Provision
