import Caretaker.Log.Journal
import Caretaker.Report

/-!
The diagnostics store holds what has been reported until it is uploaded: counts that stop at the
largest number of 32 bits, and the newest attempts, notices and batches of log entries.
-/

namespace Caretaker

/-- One more, but no more than fits. -/
def increment (n : UInt32) : UInt32 :=
  if n = UInt32.ofNat (UInt32.size - 1) then n else n + 1

/-- A count goes up to the largest number of 32 bits and stays there. -/
theorem toNat_increment (n : UInt32)
    : (increment n).toNat = min (n.toNat + 1) (UInt32.size - 1) := by
  have bound := UInt32.toNat_lt n
  unfold increment
  by_cases full : n = UInt32.ofNat (UInt32.size - 1)
  · rw [if_pos full, full]
    rfl
  · have short : n.toNat ≠ UInt32.size - 1 := by
      intro same
      exact full (UInt32.toNat_inj.1 same)
    rw [if_neg full, UInt32.toNat_add, UInt32.toNat_one]
    simp only [UInt32.size] at *
    omega

/-- How often each counter was counted. -/
structure Counts where
  successes : UInt32 := 0
  failures : UInt32 := 0
  rounds : UInt32 := 0
deriving Repr, DecidableEq

namespace Counts

/-- The count of a counter. -/
def get (counts : Counts) : Counter → UInt32
  | .successes => counts.successes
  | .failures => counts.failures
  | .rounds => counts.rounds

/-- Count a counter once more. -/
def add (counts : Counts) : Counter → Counts
  | .successes => { counts with successes := increment counts.successes }
  | .failures => { counts with failures := increment counts.failures }
  | .rounds => { counts with rounds := increment counts.rounds }

/-- Counting a counter changes no other one. -/
theorem get_add (counts : Counts) (counted counter : Counter)
    : (counts.add counted).get counter
      = if counted = counter then increment (counts.get counter) else counts.get counter := by
  cases counted <;> cases counter <;> rfl

end Counts

/-- The counters in the order in which they are exported. -/
def Counter.all : List Counter :=
  [.successes, .failures, .rounds]

/-- What is kept for the next upload. -/
structure Diagnostics where
  counts : Counts
  attempts : Ring Attempt.Record
  notices : Ring Notice
  batches : Ring (List Log.Entry)
deriving DecidableEq

namespace Diagnostics

/-- How many attempts, notices and batches are kept. -/
def historyLimit : Nat := 16

/-- A store in which nothing has been reported. -/
def empty : Diagnostics :=
  ⟨{}, .empty historyLimit, .empty historyLimit, .empty historyLimit⟩

/-- Count something. -/
def count (d : Diagnostics) (counter : Counter) : Diagnostics :=
  { d with counts := d.counts.add counter }

/-- Keep the record of an attempt. -/
def recordAttempt (d : Diagnostics) (record : Attempt.Record) : Diagnostics :=
  { d with attempts := d.attempts.push record }

/-- Keep a notice. -/
def notify (d : Diagnostics) (notice : Notice) : Diagnostics :=
  { d with notices := d.notices.push notice }

/-- Keep a batch of log entries. -/
def keepBatch (d : Diagnostics) (batch : List Log.Entry) : Diagnostics :=
  { d with batches := d.batches.push batch }

/-- Hand out the batches, which are gone afterwards. -/
def takeBatches (d : Diagnostics) : List (List Log.Entry) × Diagnostics :=
  let (batches, left) := d.batches.drain
  (batches, { d with batches := left })

/-- A notice as a value to be written. -/
def noticeValue (notice : Notice) : Json.Value :=
  .record [("reason", .text notice.reason), ("message", .text notice.message)]

/-- A counter and its count as a value to be written. -/
def countValue (d : Diagnostics) (counter : Counter) : Json.Value :=
  .list [.text counter.name, .whole (d.counts.get counter).toNat]

/-- Everything but the batches themselves, of which only the number is exported. -/
def toValue (d : Diagnostics) : Json.Value :=
  .record [
    ("counters", .list (Counter.all.map d.countValue)),
    ("sessions", .list (d.attempts.values.map Attempt.Record.toValue)),
    ("trace_events", .list (d.notices.values.map noticeValue)),
    ("pending_log_batches", .whole d.batches.size)]

/-- The exported text. -/
def toJson (d : Diagnostics) : String :=
  d.toValue.render

end Diagnostics

end Caretaker
