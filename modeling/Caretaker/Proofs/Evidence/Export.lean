import Caretaker.Diagnostics
import Caretaker.Proofs.Json.Values

/-!
What the exported text of a diagnostics store tells. A reader of the text gets back all that is
exported, so no two stores that differ in it are exported alike.
-/

namespace Caretaker

open Json Text

-----------------------------------------------------------------------------
-- Values of a known kind

namespace Json.Value

/-- The value of a member of a record. -/
def member? (name : String) : Value → Option Value
  | .record members => members.lookup name
  | _ => none

/-- A list whose items can all be read. -/
def listOf? {α : Type} (item? : Value → Option α) : Value → Option (List α)
  | .list items => items.mapM item?
  | _ => none

def text? : Value → Option String
  | .text s => some s
  | _ => none

def natural? : Value → Option Nat
  | .whole n => if 0 ≤ n then some n.toNat else none
  | _ => none

/-- A whole number of 32 bits without a sign. -/
def word32? : Value → Option UInt32
  | .whole n => some (UInt32.ofNat n.toNat) |>.filter fun word => word.toNat = n
  | _ => none

/-- A whole number of 32 bits with a sign. -/
def int32? : Value → Option Int32
  | .whole n => some (Int32.ofInt n) |>.filter fun word => word.toInt = n
  | _ => none

/-- A list is read if each of its items is. -/
theorem listOf?_map {α β : Type} {item? : Value → Option β} {write : α → Value} {told : α → β}
    (each : ∀ a, item? (write a) = some (told a)) (values : List α)
    : listOf? item? (.list (values.map write)) = some (values.map told) := by
  have all : item? ∘ write = fun a => pure (told a) := funext each
  rw [listOf?, List.mapM_map, all, List.mapM_pure]
  rfl

@[simp]
theorem natural?_natCast (n : Nat) : natural? (.whole n) = some n := by
  simp [natural?]

@[simp]
theorem word32?_toNat (n : UInt32) : word32? (.whole n.toNat) = some n := by
  simp [word32?]

@[simp]
theorem int32?_toInt (n : Int32) : int32? (.whole n.toInt) = some n := by
  simp [int32?]

end Json.Value

-----------------------------------------------------------------------------
-- Exports

open Value

/-- The record of an attempt that a value holds. -/
def Attempt.Record.ofValue? (value : Value) : Option Attempt.Record := do
  return ⟨← (← value.member? "started_at_ms").word32?, ← (← value.member? "ended_at_ms").word32?,
    ← (← value.member? "duration_ms").word32?, ← (← value.member? "result_code").int32?⟩

theorem Attempt.Record.ofValue?_toValue (record : Attempt.Record)
    : ofValue? record.toValue = some record := by
  have started : record.toValue.member? "started_at_ms" = some (.whole record.startedAt.toNat) :=
    rfl
  have ended : record.toValue.member? "ended_at_ms" = some (.whole record.endedAt.toNat) := rfl
  have lasted : record.toValue.member? "duration_ms" = some (.whole record.duration.toNat) := rfl
  have coded : record.toValue.member? "result_code" = some (.whole record.code.toInt) := rfl
  simp [ofValue?, started, ended, lasted, coded]

/-- The notice that a value holds. -/
def Notice.ofValue? (value : Value) : Option Notice := do
  return ⟨← (← value.member? "reason").text?, ← (← value.member? "message").text?⟩

theorem Notice.ofValue?_noticeValue (notice : Notice)
    : ofValue? (Diagnostics.noticeValue notice) = some notice := by
  have reason : (Diagnostics.noticeValue notice).member? "reason" = some (.text notice.reason) :=
    rfl
  have message : (Diagnostics.noticeValue notice).member? "message"
      = some (.text notice.message) := rfl
  simp [ofValue?, reason, message, text?]

/-- What is told about a diagnostics store. -/
structure Export where
  /-- The counters with their names. -/
  counts : List (String × UInt32)
  /-- The attempts that are kept, oldest first. -/
  attempts : List Attempt.Record
  notices : List Notice
  /-- The number of batches. -/
  batches : Nat
deriving DecidableEq

namespace Export

/-- A counter and its count. -/
def count? : Value → Option (String × UInt32)
  | .list [name, count] => do return (← name.text?, ← count.word32?)
  | _ => none

/-- The export that a value holds. -/
def ofValue? (value : Value) : Option Export := do
  return ⟨← (← value.member? "counters").listOf? count?,
    ← (← value.member? "sessions").listOf? Attempt.Record.ofValue?,
    ← (← value.member? "trace_events").listOf? Notice.ofValue?,
    ← (← value.member? "pending_log_batches").natural?⟩

/-- The export that a text holds. -/
def ofJson? (text : List UInt8) : Option Export :=
  (Value.parse text).toOption.bind ofValue?

end Export

namespace Diagnostics

/-- What is told about a store: the counts, the attempts and the notices themselves, but only the
number of batches.
-/
def exported (d : Diagnostics) : Export where
  counts := Counter.all.map fun counter => (counter.name, d.counts.get counter)
  attempts := d.attempts.values
  notices := d.notices.values
  batches := d.batches.size

theorem count?_countValue (d : Diagnostics) (counter : Counter)
    : Export.count? (d.countValue counter) = some (counter.name, d.counts.get counter) := by
  simp [Export.count?, countValue, text?]

/-- The value that is written is read as what it tells. -/
theorem ofValue?_toValue (d : Diagnostics) : Export.ofValue? d.toValue = some d.exported := by
  have counters : d.toValue.member? "counters" = some (.list (Counter.all.map d.countValue)) := rfl
  have sessions : d.toValue.member? "sessions"
      = some (.list (d.attempts.values.map Attempt.Record.toValue)) := rfl
  have events : d.toValue.member? "trace_events"
      = some (.list (d.notices.values.map noticeValue)) := rfl
  have pending : d.toValue.member? "pending_log_batches" = some (.whole d.batches.size) := rfl
  simp [Export.ofValue?, counters, sessions, events, pending, exported,
    listOf?_map d.count?_countValue, listOf?_map Attempt.Record.ofValue?_toValue,
    listOf?_map Notice.ofValue?_noticeValue]

theorem ofJson?_toJson (d : Diagnostics)
    : Export.ofJson? (toBytes d.toJson) = some d.exported := by
  rw [Export.ofJson?, toJson, Value.parse_render]
  exact d.ofValue?_toValue

/-- The exported text is one record, and whoever reads it gets back all that is told about the
store: the counters with their names and their counts, the attempts that are kept with all they
tell, oldest first, the notices that are kept character by character, and the number of batches. So
the texts of two stores differ if anything of this does. By reading back the values that are
written.
-/
theorem export_reads_back (d : Diagnostics)
    : (∃ entries, IsRecord entries (toBytes d.toJson)
        ∧ entries.map Prod.fst = ["counters", "sessions", "trace_events", "pending_log_batches"])
      ∧ Export.ofJson? (toBytes d.toJson)
        = some {
            counts := [
              ("sync_successful", d.counts.successes),
              ("sync_failure", d.counts.failures),
              ("ota_task_num_schedules", d.counts.rounds)]
            attempts := d.attempts.values
            notices := d.notices.values
            batches := d.batches.size }
      ∧ ∀ other : Diagnostics, other.toJson = d.toJson
        → other.counts = d.counts ∧ other.attempts.values = d.attempts.values
          ∧ other.notices.values = d.notices.values ∧ other.batches.size = d.batches.size := by
  refine ⟨⟨_, isRecord_render fun m _ => isValue_render m.2, rfl⟩, d.ofJson?_toJson, ?_⟩
  intro other same
  have told : other.exported = d.exported := by
    rw [← Option.some.injEq, ← other.ofJson?_toJson, ← d.ofJson?_toJson, same]
  obtain ⟨counts, attempts, notices, batches⟩ := Export.mk.inj told
  refine ⟨?_, attempts, notices, batches⟩
  obtain ⟨successes, failures, rounds⟩ : other.counts.successes = d.counts.successes
      ∧ other.counts.failures = d.counts.failures ∧ other.counts.rounds = d.counts.rounds := by
    simpa [Counter.all, Counts.get] using counts
  have whole (counts : Counts) : counts = ⟨counts.successes, counts.failures, counts.rounds⟩ := rfl
  rw [whole other.counts, successes, failures, rounds]

end Diagnostics

end Caretaker
