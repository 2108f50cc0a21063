import Caretaker.Evidence
import Caretaker.InTurn
import Caretaker.Liveness.Registry
import Caretaker.Site

/-!
A site to rehearse at. Joining a network always works, the lamp and the restart are lines in the
log, and the server of releases goes through a fixed play: nothing new, a failure, a release that
is put off, and one that can be installed from then on.
-/

namespace Caretaker.Rehearsal

/-- The origin of the log lines of a rehearsal. -/
def origin : String := "host_sim"

/-- The release of the play. -/
def release : Release :=
  ⟨"9.9.9", "http://ota.local/firmware/9.9.9.bin", some (1024 * 1024)⟩

/-- What the server answers when it is asked for the n-th time. -/
def finding : Nat → Finding
  | 1 => .nothing
  | 2 => .failed (-1)
  | _ => .found release

/-- What comes of an installation after the server has been asked n times. -/
def installation (asked : Nat) : Installation :=
  if asked = 3 then .deferred else .staged

/-- A record that went to the console, with the time since boot. -/
structure Printed where
  uptime : Nat
  record : Log.Record

/-- The state of the place. -/
structure World where
  evidence : Evidence
  stored : Provision.Stored
  registry : Liveness.Registry
  isOnline : Bool := false
  /-- How often the server has been asked. -/
  asked : Nat := 0
  marker : Option Reset.Marker := none
  /-- Readings of the clock, given in turn. -/
  clock : List Stamp := []
  /-- Milliseconds since boot. -/
  uptime : Nat := 0
  /-- What went to the console, latest first. -/
  printed : List Printed := []

/-- Work on the state of the place. -/
abbrev Work := StateM World

/-- File a report. What is said goes to the console. -/
def file (r : Report) : Work r.Answer := do
  let world ← get
  let filed := world.evidence.file world.uptime r
  set { world with
    evidence := filed.evidence
    printed := filed.records.reverse.map (Printed.mk world.uptime) ++ world.printed }
  return filed.answer

/-- Say something about the rehearsal. -/
def tell (message : String) : Work Unit :=
  file (.say ⟨.info, some origin, "[sim] " ++ message⟩)

/-- Read the clock. -/
def readClock : Work Stamp := do
  let world ← get
  let (reading, left) := inTurn 0 world.clock
  set { world with clock := left }
  return reading

/-- The level of a channel as a digit. -/
def digit (level : Bool) : String :=
  if level then "1" else "0"

/-- What the console shows in place of the lamp. -/
def describe (lamp : Lamp) : String :=
  let c := lamp.channels
  "LED " ++ lamp.name ++ " (r=" ++ digit c.red ++ " g=" ++ digit c.green ++ " b=" ++ digit c.blue
    ++ ")"

/-- The site. A restart leaves everything running and only looks at the marker it was left. -/
def site : (r : Site.Request) → Work (Site.Answer r)
  | .now => readClock
  | .report r => file r
  | .isOnline => return (← get).isOnline
  | .setting key => return (← get).stored.lookUp key
  | .join credentials => do
    tell ("joining '" ++ credentials.ssid ++ "'")
    modify ({ · with isOnline := true })
    return .ok ()
  | .check => do
    modify fun world => { world with asked := world.asked + 1 }
    return finding (← get).asked
  | .install release => do
    match installation (← get).asked with
    | .deferred =>
      tell ("deferring " ++ release.version)
      return .deferred
    | other =>
      tell ("staged " ++ release.version)
      return other
  | .light lamp => tell (describe lamp)
  | .mark reason => do
    let uptime ← readClock
    modify ({ · with marker := some ⟨reason, uptime⟩ })
    return .ok ()
  | .restart reason => do
    tell ("restart requested: " ++ reason.tag)
    let marker := (← get).marker
    modify ({ · with marker := none })
    let _ ← (Reset.previous (S := Telling) (.ok marker)).interpret file

end Caretaker.Rehearsal
