/-!
The policy of a caretaker: how often it looks for new firmware and after stuck tasks, and what it
does about them. A policy with an interval of zero is flawed, because a loop without a pause
would starve everything else.
-/

namespace Caretaker

/-- What follows a report of a stuck task. -/
inductive Escalation where
  /-- Leave evidence and go on. -/
  | log
  /-- Leave evidence and restart the device. -/
  | restart
deriving Repr, DecidableEq

/-- The settings under which a caretaker runs. Their defaults are those of a new device. -/
structure Policy where
  /-- Seconds between two looks for new firmware. -/
  checkSeconds : UInt32 := 60 * 60
  /-- Whether to join the stored network while offline. -/
  joins : Bool := true
  /-- Whether to count how checks end. -/
  countsChecks : Bool := true
  /-- Whether to fetch and install what a check finds. -/
  downloads : Bool := true
  /-- Milliseconds between two looks after stuck tasks. -/
  patrolMillis : UInt32 := 1000
  /-- Milliseconds after which an armed task counts as stuck. -/
  stuckMillis : UInt32 := 1000
  escalation : Escalation := .restart
  /-- Whether the canary task runs. -/
  canary : Bool := true
  /-- Milliseconds between two rounds of the canary task. -/
  canaryMillis : UInt32 := 250
deriving Repr, DecidableEq

namespace Policy

/-- What makes a policy unusable. -/
inductive Flaw where
  | checkInterval
  | patrolInterval
  | stuckTimeout
  | canaryInterval
deriving Repr, DecidableEq

/-- The text that reports a flaw. -/
def Flaw.message : Flaw → String
  | .checkInterval => "ota_check_interval_secs must be non-zero"
  | .patrolInterval => "watchdog_check_interval_ms must be non-zero"
  | .stuckTimeout => "watchdog_timeout_ms must be non-zero"
  | .canaryInterval =>
    "example_task_interval_ms must be non-zero when the example task is enabled"

/-- The first flaw of a policy. The canary's interval matters only while the canary runs. -/
def flaw? (p : Policy) : Option Flaw :=
  if p.checkSeconds = 0 then some .checkInterval
  else if p.patrolMillis = 0 then some .patrolInterval
  else if p.stuckMillis = 0 then some .stuckTimeout
  else if p.canary ∧ p.canaryMillis = 0 then some .canaryInterval
  else none

/-- A policy without flaw. -/
def Sound (p : Policy) : Prop :=
  p.flaw? = none

instance (p : Policy) : Decidable p.Sound :=
  inferInstanceAs (Decidable (_ = _))

/-- Milliseconds between two looks for new firmware. -/
def checkMillis (p : Policy) : Nat :=
  p.checkSeconds.toNat * 1000

/-- A sound policy has no interval of zero, by cases over the flaws. -/
theorem sound_iff {p : Policy}
    : p.Sound ↔ p.checkSeconds ≠ 0 ∧ p.patrolMillis ≠ 0 ∧ p.stuckMillis ≠ 0
      ∧ (p.canary = true → p.canaryMillis ≠ 0) := by
  unfold Sound flaw?
  repeat' split
  all_goals simp_all

/-- The policy of a new device is sound. -/
theorem sound_default : Sound {} := by
  decide

end Policy

end Caretaker
