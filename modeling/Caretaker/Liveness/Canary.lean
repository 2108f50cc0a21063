import Caretaker.Liveness.Tasks

/-!
The canary is a task whose only work is to take its own lock and give it back. While somebody
else holds the lock the canary hangs with its entry armed, which is how a hung task looks.
-/

namespace Caretaker.Liveness.Canary

/-- The name of the canary, in the registry and in the log. -/
def name : String := "example_task"

variable {S : Signature} [Clock S] [Reports S] [Tasks S]

/-- Register the canary in the shared registry. -/
def enroll : Program S Unit := do
  match ← (← Tasks.registry).enroll name none with
  | .ok registry => Tasks.replace registry
  | .error _ => pure ()

/-- Arm the entry. -/
def enter : Program S Unit := do
  let (_, registry) ← (← Tasks.registry).start name
  Tasks.replace registry

/-- Disarm the entry. -/
def leave : Program S Unit := do
  let (_, registry) ← (← Tasks.registry).stop name
  Tasks.replace registry

/-- Take the lock and give it back, with the entry armed from before the one until after the
other.
-/
def visit : Program S Unit := do
  enter
  Tasks.acquire
  Tasks.release
  leave

/-- The first thing the canary says. -/
def announce (millis : Nat) : Program S Unit :=
  say .info name ("Task watchdog example task running every " ++ toString millis ++ "ms.")

/-- One round of the canary: a visit, then a pause. -/
def round (millis : Nat) : Program S Unit := do
  visit
  Tasks.pause millis

end Caretaker.Liveness.Canary
