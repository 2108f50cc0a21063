import Caretaker.Liveness.Registry
import Caretaker.Site

/-!
Scripts for a test bench: what each collaborator of a caretaker will answer, and the notes taken
when it is asked.
-/

namespace Caretaker.Bench

/-- The collaborators that can be made to fail. -/
inductive Weak where
  | join
  | count (counter : Counter)
  | attempt
  | notice
  | keepLog
  | mark
deriving Repr, DecidableEq

/-- What the collaborators answer from now on. -/
structure Script where
  /-- Whether the site is online, asked in turn. -/
  online : List Bool := [true]
  finding : Finding := .nothing
  installation : Installation := .staged
  /-- What fails, and how. -/
  faults : Weak → Option Fault := fun _ => none
  /-- Readings of the clock. Without any, the clock goes on as before. -/
  clock : List Stamp := []

/-- The script that ends a cycle: a release that installs at once. -/
def Script.ending : Script where
  finding := .found ⟨"end", "end", none⟩

/-- A note about something a collaborator was asked. -/
inductive Note where
  | clock (reading : Stamp)
  | online (answer : Bool)
  | setting (key : Provision.Key)
  | join (credentials : Provision.Credentials)
  | check
  | install (release : Release)
  | light (lamp : Lamp)
  | count (counter : Counter)
  | attempt (record : Attempt.Record)
  | notice (notice : Notice)
  | keepLog
  | mark (reason : Reset.Reason)
  | restart (reason : Reset.Reason)
  | stuck (task : Liveness.Stuck)

end Caretaker.Bench
