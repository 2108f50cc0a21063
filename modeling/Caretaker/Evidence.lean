import Caretaker.Diagnostics

/-!
Evidence is all that reports leave behind: the journal of log records and the diagnostics store
with the batches set aside from it. Reporting to the store says things too, so one report may put
several records into the journal.
-/

namespace Caretaker

/-- Where the log of the last time is taken from when it is set aside. -/
inductive LogSource where
  /-- There is no log to set aside. -/
  | nothing
  /-- The journal that every record goes to. -/
  | journal
  /-- A ring of its own. -/
  | ring (entries : Ring Log.Entry)
deriving DecidableEq

/-- The journal, the diagnostics store and the log that goes into it. -/
structure Evidence where
  journal : Log.Journal
  source : LogSource
  diagnostics : Diagnostics
  /-- Whether a task has failed while it held the store, which closes it for good. -/
  isPoisoned : Bool := false
deriving DecidableEq

/-- What a report comes to: its answer, the evidence after it, and the records that went into the
journal, in order.
-/
structure Filed (α : Type) where
  answer : α
  evidence : Evidence
  records : List Log.Record

namespace Evidence

/-- Nothing has been reported yet. -/
def empty (threshold : Log.Threshold) (source : LogSource) : Evidence :=
  ⟨.empty threshold, source, .empty, false⟩

/-- File a record, if its level is kept. -/
def say (e : Evidence) (uptime : Nat) (record : Log.Record) : Filed Unit where
  answer := ()
  evidence := { e with journal := e.journal.note uptime record }
  records := if e.journal.threshold.admits record.level then [record] else []

/-- The origin of what the store itself says. -/
def origin : String := "telemetry"

/-- The failure of every report to a store that is closed. -/
def poisonedFault : Fault :=
  ⟨"Failed to lock telemetry: poisoned lock: another task failed inside"⟩

/-- The failure to set a log aside that does not exist. -/
def noLogFault : Fault :=
  ⟨"no log buffer attached"⟩

/-- What is said about a notice. -/
def noticeRecord (notice : Notice) : Log.Record :=
  ⟨.warn, some origin, "Trace event " ++ notice.reason ++ ": " ++ notice.message⟩

/-- What is said about a batch. -/
def batchRecord (batch : List Log.Entry) : Log.Record :=
  ⟨.info, some origin, "Collected " ++ toString batch.length ++ " log lines for upload"⟩

/-- Take the log of the last time, if there is a log. -/
def takeLog (e : Evidence) : Option (List Log.Entry × Evidence) :=
  match e.source with
  | .nothing => none
  | .journal =>
    let (entries, left) := e.journal.ring.drain
    some (entries, { e with journal := { e.journal with ring := left } })
  | .ring ring =>
    let (entries, left) := ring.drain
    some (entries, { e with source := .ring left })

/-- Put an entry into the ring that the log is taken from, if it is a ring of its own. -/
def append (e : Evidence) (entry : Log.Entry) : Evidence :=
  match e.source with
  | .ring ring => { e with source := .ring (ring.push entry) }
  | _ => e

/-- How many entries are in the ring that the log is taken from, if there is one. -/
def logSize? (e : Evidence) : Option Nat :=
  match e.source with
  | .nothing => none
  | .journal => some e.journal.ring.size
  | .ring ring => some ring.size

/-- Change the diagnostics. -/
def update (e : Evidence) (change : Diagnostics → Diagnostics) : Evidence :=
  { e with diagnostics := change e.diagnostics }

/-- A change of the diagnostics about which nothing is said. -/
def silently (e : Evidence) (change : Diagnostics → Diagnostics) : Filed (Except Fault Unit) :=
  ⟨.ok (), e.update change, []⟩

/-- Keep a notice, and say so before. -/
def notify (e : Evidence) (uptime : Nat) (notice : Notice) : Filed (Except Fault Unit) :=
  let said := e.say uptime (noticeRecord notice)
  ⟨.ok (), said.evidence.update (·.notify notice), said.records⟩

/-- Set the log of the last time aside, and say so once it is done. -/
def keepLog (e : Evidence) (uptime : Nat) : Filed (Except Fault Unit) :=
  match e.takeLog with
  | none => ⟨.error noLogFault, e, []⟩
  | some (batch, taken) =>
    let said := taken.say uptime (batchRecord batch)
    ⟨.ok (), said.evidence.update (·.keepBatch batch), said.records⟩

/-- File a report. A closed store takes nothing but what is said. -/
def file (e : Evidence) (uptime : Nat) : (r : Report) → Filed r.Answer
  | .say record => e.say uptime record
  | .count counter =>
    if e.isPoisoned then ⟨.error poisonedFault, e, []⟩ else e.silently (·.count counter)
  | .attempt record =>
    if e.isPoisoned then ⟨.error poisonedFault, e, []⟩ else e.silently (·.recordAttempt record)
  | .notice event =>
    if e.isPoisoned then ⟨.error poisonedFault, e, []⟩ else e.notify uptime event
  | .keepLog =>
    if e.isPoisoned then ⟨.error poisonedFault, e, []⟩ else e.keepLog uptime

/-- Hand out the batches for upload. -/
def takeBatches (e : Evidence) : List (List Log.Entry) × Evidence :=
  let (batches, diagnostics) := e.diagnostics.takeBatches
  (batches, { e with diagnostics := diagnostics })

end Evidence

end Caretaker
