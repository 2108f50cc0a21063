import Caretaker.Liveness.Tasks
import Caretaker.Policy
import Caretaker.Site

/-!
The patrol looks after stuck tasks from time to time and hands each of them to a handler, in the
order of their registration. The handler of a caretaker leaves evidence and, if the policy says
so, restarts the device.
-/

namespace Caretaker.Liveness

/-- Handle a stuck task. A failure on the way keeps nothing behind it from being done. -/
def escalate (escalation : Escalation) (task : Stuck) : Program Site Unit := do
  say .error Registry.origin ("Task watchdog: '" ++ task.name ++ "' stuck for "
    ++ toString task.elapsed.toNat ++ "ms (timeout " ++ toString task.timeout.toNat ++ "ms)")
  tolerate .warn Registry.origin "Failed to record trace event"
    (← notify (.stuck task.name task.elapsed))
  tolerate .warn Registry.origin "Failed to trigger log collection" (← keepLog)
  if escalation = .restart then
    tolerate .error Registry.origin "Failed to persist reboot marker" (← Site.mark .stuckTask)
    Site.restart .stuckTask

namespace Patrol

variable {S : Signature}

/-- Handle every stuck task once. Tells how many there were. -/
def pass [Clock S] (handle : Stuck → Program S Unit) (registry : Registry) : Program S Nat := do
  let stuck ← registry.stuck
  stuck.forM handle
  return stuck.length

/-- The first thing the patrol says. -/
def announce [Reports S] [Tasks S] (millis : Nat) : Program S Unit := do
  let registry ← Tasks.registry
  say .info Registry.origin ("Task watchdog checking " ++ toString registry.entries.length
    ++ " entries every " ++ toString millis ++ "ms")

/-- One round of the patrol: a pause, then a pass. -/
def round [Clock S] [Tasks S] (handle : Stuck → Program S Unit) (millis : Nat)
    : Program S Unit := do
  Tasks.pause millis
  let _ ← pass handle (← Tasks.registry)

end Patrol

end Caretaker.Liveness
