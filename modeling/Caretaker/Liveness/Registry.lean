import Caretaker.Report

/-!
The registry of tasks that have to show signs of life. A task arms its entry before it does
something that could hang and disarms it afterwards; an entry that stays armed for longer than
its timeout marks a stuck task.
-/

namespace Caretaker.Liveness

/-- A registered task. -/
structure Entry where
  name : String
  /-- When the entry was armed last, unless it has been disarmed since. -/
  armedAt : Option Stamp
  /-- The timeout of this entry, if it has one of its own. -/
  timeout : Option UInt32
deriving Repr, DecidableEq

/-- Whether a registered task may be hanging. -/
inductive EntryState where
  | armed
  | disarmed
deriving Repr, DecidableEq

/-- A task that has been armed for longer than its timeout. -/
structure Stuck where
  name : String
  elapsed : UInt32
  timeout : UInt32
deriving Repr, DecidableEq

/-- Why a task was not registered. -/
inductive Refusal where
  | duplicate (name : String)
  | full (name : String)
  | emptyName
deriving Repr, DecidableEq

/-- The text that reports why a task was not registered. -/
def Refusal.message : Refusal → String
  | .duplicate name => "task watchdog '" ++ name ++ "' registered twice"
  | .full name => "task watchdog registry full, cannot register '" ++ name ++ "'"
  | .emptyName => "task watchdog name must not be empty"

/-- The registered tasks in the order of their registration. -/
structure Registry where
  capacity : Nat
  /-- The timeout of entries without one of their own. -/
  timeout : UInt32
  entries : List Entry := []
deriving Repr, DecidableEq

namespace Entry

/-- The state of an entry. -/
def state (entry : Entry) : EntryState :=
  if entry.armedAt.isSome then .armed else .disarmed

/-- The longest time that can have passed. A longer one means that the entry was armed after the
clock was read.
-/
def longest : UInt32 := 0x7fffffff

/-- How long an entry armed at one reading has been armed at another one. -/
def elapsed (armedAt now : Stamp) : UInt32 :=
  let time := Stamp.since armedAt now
  if longest < time then 0 else time

/-- The report about an armed entry, if it is due. -/
def stuck? (entry : Entry) (fallback : UInt32) (armedAt now : Stamp) : Option Stuck :=
  let elapsed := elapsed armedAt now
  let timeout := entry.timeout.getD fallback
  if timeout < elapsed then some ⟨entry.name, elapsed, timeout⟩ else none

end Entry

namespace Registry

/-- The registered names in order. -/
def names (r : Registry) : List String :=
  r.entries.map Entry.name

/-- The entry of a name. -/
def find? (r : Registry) (name : String) : Option Entry :=
  r.entries.find? (·.name = name)

/-- The state of the entry of a name. -/
def state? (r : Registry) (name : String) : Option EntryState :=
  (r.find? name).map Entry.state

/-- Change the entry of a name. -/
def modify (r : Registry) (name : String) (change : Entry → Entry) : Registry :=
  { r with entries := r.entries.map fun e => if e.name = name then change e else e }

/-- Arm an entry. An armed entry starts anew. -/
def arm (r : Registry) (name : String) (now : Stamp) : Registry :=
  r.modify name ({ · with armedAt := some now })

/-- Disarm an entry. -/
def disarm (r : Registry) (name : String) : Registry :=
  r.modify name ({ · with armedAt := none })

/-- Register a task. The reasons to refuse it are looked at in this order. -/
def register (r : Registry) (name : String) (timeout : Option UInt32) : Except Refusal Registry :=
  if name.isEmpty then .error .emptyName
  else if (r.find? name).isSome then .error (.duplicate name)
  else if r.capacity ≤ r.entries.length then .error (.full name)
  else .ok { r with entries := r.entries ++ [⟨name, none, timeout⟩] }

/-- The origin of the log lines about tasks. -/
def origin : String := "watchdog"

section

variable {S : Signature} [Reports S]

/-- Register a task, with a line in the log. -/
def enroll (r : Registry) (name : String) (timeout : Option UInt32)
    : Program S (Except Refusal Registry) := do
  match r.register name timeout with
  | .ok registry =>
    say .debug origin ("Task watchdog '" ++ name ++ "' registered")
    return .ok registry
  | .error (.duplicate name) =>
    say .error origin (Refusal.duplicate name).message
    return .error (.duplicate name)
  | .error refusal => return .error refusal

/-- A line in the log about a name that is not registered. -/
def warnUnknown (operation name : String) : Program S Unit :=
  say .warn origin ("Task watchdog " ++ operation ++ " for unregistered name '" ++ name
    ++ "' ignored")

/-- A task says that it may hang from now on. Tells whether the name is registered. -/
def start [Clock S] (r : Registry) (name : String) : Program S (Bool × Registry) := do
  if (r.find? name).isSome then
    return (true, r.arm name (← now))
  else
    warnUnknown "start" name
    return (false, r)

/-- A task says that it has not hung. Tells whether the name is registered. -/
def stop (r : Registry) (name : String) : Program S (Bool × Registry) := do
  if (r.find? name).isSome then
    return (true, r.disarm name)
  else
    warnUnknown "stop" name
    return (false, r)

end

/-- Put a report, if there is one, behind others. What does not fit into the room is dropped. -/
def collect (room : Nat) (reports : List Stuck) : Option Stuck → List Stuck
  | none => reports
  | some report => if reports.length < room then reports ++ [report] else reports

/-- Put the reports about the stuck tasks among some entries behind others. The clock is read once
for each armed entry.
-/
def stuckAmong {S : Signature} [Clock S] (room : Nat) (fallback : UInt32)
    : List Entry → List Stuck → Program S (List Stuck)
  | [], reports => return reports
  | entry :: rest, reports => do
    match entry.armedAt with
    | none => stuckAmong room fallback rest reports
    | some armedAt =>
      let report := entry.stuck? fallback armedAt (← now)
      stuckAmong room fallback rest (collect room reports report)

/-- The stuck tasks, in the order of their registration. There is room for as many reports as for
entries.
-/
def stuck {S : Signature} [Clock S] (r : Registry) : Program S (List Stuck) :=
  stuckAmong r.capacity r.timeout r.entries []

end Registry

end Caretaker.Liveness
