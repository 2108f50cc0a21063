import Caretaker.Json.Record
import Caretaker.Report

/-!
Deliberate restarts. Before the device restarts itself it leaves a marker that says why, and the
next boot reads it back.
-/

namespace Caretaker.Reset

open Json

/-- Why the device restarts itself. -/
inductive Reason where
  | firmwareUpdate
  | stuckTask
deriving Repr, DecidableEq

namespace Reason

/-- The name of a reason in stored texts. -/
def name : Reason → String
  | .firmwareUpdate => "FirmwareUpdate"
  | .stuckTask => "TaskWatchdog"

/-- The reasons by name. -/
def names : List (String × Reason) :=
  [("FirmwareUpdate", .firmwareUpdate), ("TaskWatchdog", .stuckTask)]

/-- The words for a reason in log lines. -/
def tag : Reason → String
  | .firmwareUpdate => "firmware update"
  | .stuckTask => "task watchdog"

end Reason

/-- What a boot finds out about the restart before it. -/
structure Marker where
  reason : Reason
  uptimeMillis : UInt32
deriving Repr, DecidableEq

namespace Marker

/-- The members of a marker that a text has given so far. -/
structure Draft where
  reason : Option Reason := none
  uptimeMillis : Option UInt32 := none
deriving Repr, DecidableEq

/-- The members of a stored marker, both of which have to be there. -/
def shape : Shape Draft where
  title := "struct RebootMarker"
  members := [
    ⟨"reason", true, (·.reason.isSome),
      fun d => return { d with reason := some (← Reader.choice Reason.names) }⟩,
    ⟨"uptime_ms", true, (·.uptimeMillis.isSome),
      fun d => return { d with uptimeMillis := some (← Reader.word32) }⟩]

/-- The marker of a complete draft. -/
def Draft.complete (d : Draft) : Except Json.Error Marker := do
  let some reason := d.reason | throw (.missing "reason")
  let some uptime := d.uptimeMillis | throw (.missing "uptime_ms")
  return ⟨reason, uptime⟩

/-- The marker in a stored text. -/
def ofJson (text : List UInt8) : Except Json.Error Marker :=
  Reader.decode (do (← shape.read {}).complete) text

/-- A marker as a value to be written. -/
def toValue (m : Marker) : Value :=
  .record [("reason", .text m.reason.name), ("uptime_ms", .whole m.uptimeMillis.toNat)]

/-- The stored text of a marker. -/
def toJson (m : Marker) : String :=
  m.toValue.render

end Marker

/-- The restart before this boot, from what was found when its marker was taken. A marker that
cannot be read is no reason not to boot.
-/
def previous {S : Signature} [Reports S] (taken : Except Fault (Option Marker))
    : Program S (Option Marker) := do
  match taken with
  | .ok (some marker) =>
    say .info "reboot" ("Previous reboot was deliberate: " ++ marker.reason.tag ++ " (after "
      ++ toString (marker.uptimeMillis.toNat / 1000) ++ "s uptime)")
    return some marker
  | .ok none => return none
  | .error fault =>
    say .warn "reboot" ("Failed to read reboot marker: " ++ fault.text)
    return none

end Caretaker.Reset
