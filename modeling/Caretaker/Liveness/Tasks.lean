import Caretaker.Liveness.Registry

/-!
Surroundings in which tasks run side by side. The tasks share one registry, and the canary task
has a lock of its own that others may hold.
-/

namespace Caretaker

/-- What a task can do beside its work. -/
class Tasks (S : Signature) where
  /-- Let milliseconds pass. -/
  pause : Nat → Program S Unit
  /-- Look at the shared registry. -/
  registry : Program S Liveness.Registry
  /-- Put another registry in its place. -/
  replace : Liveness.Registry → Program S Unit
  /-- Wait for the canary's lock and take it. -/
  acquire : Program S Unit
  /-- Give the canary's lock back. -/
  release : Program S Unit

end Caretaker
