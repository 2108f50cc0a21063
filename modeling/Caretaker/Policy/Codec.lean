import Caretaker.Policy
import Caretaker.Json.Record
import Caretaker.Json.Value

/-!
Policies as stored text. Reading overlays the defaults with the members that are there, so a
stored policy may be partial; writing gives every member in one order.
-/

namespace Caretaker

open Json

/-- The names of the escalations in stored texts. -/
def Escalation.names : List (String × Escalation) :=
  [("Log", .log), ("Restart", .restart)]

/-- The name of an escalation in stored texts. -/
def Escalation.name : Escalation → String
  | .log => "Log"
  | .restart => "Restart"

namespace Policy

/-- The members of a policy that a text has given so far. -/
structure Draft where
  checkSeconds : Option UInt32 := none
  joins : Option Bool := none
  countsChecks : Option Bool := none
  downloads : Option Bool := none
  patrolMillis : Option UInt32 := none
  stuckMillis : Option UInt32 := none
  escalation : Option Escalation := none
  canary : Option Bool := none
  canaryMillis : Option UInt32 := none
deriving Repr, DecidableEq

/-- The default policy with the members of a draft in place of its own. -/
def Draft.overlay (d : Draft) : Policy :=
  let base : Policy := {}
  { checkSeconds := d.checkSeconds.getD base.checkSeconds
    joins := d.joins.getD base.joins
    countsChecks := d.countsChecks.getD base.countsChecks
    downloads := d.downloads.getD base.downloads
    patrolMillis := d.patrolMillis.getD base.patrolMillis
    stuckMillis := d.stuckMillis.getD base.stuckMillis
    escalation := d.escalation.getD base.escalation
    canary := d.canary.getD base.canary
    canaryMillis := d.canaryMillis.getD base.canaryMillis }

/-- The members of a stored policy, none of which has to be there. -/
def shape : Shape Draft where
  title := "struct SupervisorConfig"
  members := [
    ⟨"ota_check_interval_secs", false, (·.checkSeconds.isSome),
      fun d => return { d with checkSeconds := some (← Reader.word32) }⟩,
    ⟨"wifi_autojoin", false, (·.joins.isSome),
      fun d => return { d with joins := some (← Reader.flag) }⟩,
    ⟨"record_sync_metrics", false, (·.countsChecks.isSome),
      fun d => return { d with countsChecks := some (← Reader.flag) }⟩,
    ⟨"download_updates", false, (·.downloads.isSome),
      fun d => return { d with downloads := some (← Reader.flag) }⟩,
    ⟨"watchdog_check_interval_ms", false, (·.patrolMillis.isSome),
      fun d => return { d with patrolMillis := some (← Reader.word32) }⟩,
    ⟨"watchdog_timeout_ms", false, (·.stuckMillis.isSome),
      fun d => return { d with stuckMillis := some (← Reader.word32) }⟩,
    ⟨"watchdog_action", false, (·.escalation.isSome),
      fun d => return { d with escalation := some (← Reader.choice Escalation.names) }⟩,
    ⟨"example_task_enabled", false, (·.canary.isSome),
      fun d => return { d with canary := some (← Reader.flag) }⟩,
    ⟨"example_task_interval_ms", false, (·.canaryMillis.isSome),
      fun d => return { d with canaryMillis := some (← Reader.word32) }⟩]

/-- Why a stored policy is not used. -/
inductive Rejection where
  | unreadable (error : Json.Error)
  | flawed (flaw : Flaw)
deriving Repr, DecidableEq

/-- The sound policy in a stored text. -/
def ofJson (text : List UInt8) : Except Rejection Policy :=
  match Reader.decode (shape.read {}) text with
  | .error e => .error (.unreadable e)
  | .ok draft =>
    let policy := draft.overlay
    match policy.flaw? with
    | some flaw => .error (.flawed flaw)
    | none => .ok policy

/-- A policy as a value to be written. -/
def toValue (p : Policy) : Value :=
  .record [
    ("ota_check_interval_secs", .whole p.checkSeconds.toNat),
    ("wifi_autojoin", .flag p.joins),
    ("record_sync_metrics", .flag p.countsChecks),
    ("download_updates", .flag p.downloads),
    ("watchdog_check_interval_ms", .whole p.patrolMillis.toNat),
    ("watchdog_timeout_ms", .whole p.stuckMillis.toNat),
    ("watchdog_action", .text p.escalation.name),
    ("example_task_enabled", .flag p.canary),
    ("example_task_interval_ms", .whole p.canaryMillis.toNat)]

/-- The stored text of a policy. -/
def toJson (p : Policy) : String :=
  p.toValue.render

end Policy

end Caretaker
