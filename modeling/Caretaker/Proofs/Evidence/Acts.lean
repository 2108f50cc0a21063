import Caretaker.Evidence

/-!
What evidence tells of what was done to it. As long as its store is open, the counts, the attempts
and the notices are those that were reported, in the bounds of what is kept, and the journal holds
the newest of the entries that have come in since it was set aside.
-/

namespace Caretaker

namespace Report

/-- The failure of a report. What is merely said cannot fail. -/
def failure? (fault : Fault) : (r : Report) → Option r.Answer
  | .say _ => none
  | .count _ | .attempt _ | .notice _ | .keepLog => some (.error fault)

/-- The answer to a report that is taken. -/
def taken : (r : Report) → r.Answer
  | .say _ => ()
  | .count _ | .attempt _ | .notice _ | .keepLog => .ok ()

/-- A report that goes to the store, as any does but what is merely said. -/
def deposit? : Report → Option Report
  | .say _ => none
  | r => some r

def attempt? : Report → Option Attempt.Record
  | .attempt record => some record
  | _ => none

def notice? : Report → Option Notice
  | .notice event => some event
  | _ => none

end Report

/-- The entry of a record in the journal, if its level is kept. -/
def Log.Threshold.entries (threshold : Threshold) (uptime : Nat) (record : Record) : List Entry :=
  if threshold.admits record.level then [record.entry uptime] else []

theorem Log.Journal.ring_note (journal : Journal) (uptime : Nat) (record : Record)
    : (journal.note uptime record).ring
      = journal.ring.pushAll (journal.threshold.entries uptime record) := by
  unfold note Threshold.entries
  split <;> rfl

@[simp]
theorem Log.Journal.threshold_note (journal : Journal) (uptime : Nat) (record : Record)
    : (journal.note uptime record).threshold = journal.threshold := by
  unfold note
  split <;> rfl

namespace Evidence

/-- What can be done to evidence. -/
inductive Act where
  | file (uptime : Nat) (report : Report)
  | append (entry : Log.Entry)
  | takeBatches

/-- The evidence once something more has been done to it. -/
def perform (e : Evidence) : Act → Evidence
  | .file uptime report => (e.file uptime report).evidence
  | .append entry => e.append entry
  | .takeBatches => e.takeBatches.2

def performAll (e : Evidence) (acts : List Act) : Evidence :=
  acts.foldl perform e

@[simp]
theorem performAll_nil (e : Evidence) : e.performAll [] = e := rfl

@[simp]
theorem performAll_cons (e : Evidence) (act : Act) (acts : List Act)
    : e.performAll (act :: acts) = (e.perform act).performAll acts := rfl

theorem performAll_append (e : Evidence) (acts more : List Act)
    : e.performAll (acts ++ more) = (e.performAll acts).performAll more :=
  List.foldl_append

/-- The report that goes to the store. -/
def Act.deposit? : Act → Option Report
  | .file _ report => report.deposit?
  | .append _ | .takeBatches => none

/-- The reports that go to the store when some things are done. -/
def deposits (acts : List Act) : List Report :=
  acts.filterMap Act.deposit?

theorem deposits_cons (act : Act) (acts : List Act)
    : deposits (act :: acts) = act.deposit?.toList ++ deposits acts := by
  rw [deposits, List.filterMap_cons]
  cases act.deposit? <;> rfl

theorem deposits_append (acts more : List Act)
    : deposits (acts ++ more) = deposits acts ++ deposits more :=
  List.filterMap_append

-----------------------------------------------------------------------------
-- Open and closed stores

/-- Reports are taken, and there is a log to set aside. -/
def IsOpen (e : Evidence) : Prop :=
  e.isPoisoned = false ∧ e.source ≠ .nothing

theorem isOpen_empty (threshold : Log.Threshold) {source : LogSource} (hasLog : source ≠ .nothing)
    : (empty threshold source).IsOpen :=
  ⟨rfl, hasLog⟩

theorem IsOpen.perform {e : Evidence} (isOpen : e.IsOpen) (act : Act) : (e.perform act).IsOpen := by
  obtain ⟨journal, source, diagnostics, isPoisoned⟩ := e
  obtain ⟨rfl, hasLog⟩ := isOpen
  cases act with
  | file uptime report =>
    cases report with
    | keepLog =>
      cases source with
      | ring => exact ⟨rfl, nofun⟩
      | _ => exact ⟨rfl, hasLog⟩
    | _ => exact ⟨rfl, hasLog⟩
  | append entry =>
    cases source with
    | ring => exact ⟨rfl, nofun⟩
    | _ => exact ⟨rfl, hasLog⟩
  | takeBatches => exact ⟨rfl, hasLog⟩

theorem IsOpen.answer_file {e : Evidence} (isOpen : e.IsOpen) (uptime : Nat) (r : Report)
    : (e.file uptime r).answer = r.taken := by
  obtain ⟨journal, source, diagnostics, isPoisoned⟩ := e
  obtain ⟨rfl, hasLog⟩ := isOpen
  cases r with
  | keepLog =>
    cases source with
    | nothing => exact absurd rfl hasLog
    | journal | ring => rfl
  | _ => rfl

/-- The log that would be set aside. -/
def log (e : Evidence) : List Log.Entry :=
  match e.source with
  | .nothing => []
  | .journal => e.journal.ring.values
  | .ring entries => entries.values

/-- What an act changes in the diagnostics of an open store with a log. -/
def Act.change (log : List Log.Entry) : Act → Diagnostics → Diagnostics
  | .file _ (.count counter), d => d.count counter
  | .file _ (.attempt record), d => d.recordAttempt record
  | .file _ (.notice event), d => d.notify event
  | .file _ .keepLog, d => d.keepBatch log
  | .takeBatches, d => d.takeBatches.2
  | .file _ (.say _), d | .append _, d => d

/-- The diagnostics of an open store change with each act and in no other way. -/
theorem IsOpen.diagnostics_perform {e : Evidence} (isOpen : e.IsOpen) (act : Act)
    : (e.perform act).diagnostics = act.change e.log e.diagnostics := by
  obtain ⟨journal, source, diagnostics, isPoisoned⟩ := e
  obtain ⟨rfl, hasLog⟩ := isOpen
  cases act with
  | file uptime report =>
    cases report with
    | keepLog =>
      cases source with
      | nothing => exact absurd rfl hasLog
      | journal | ring => rfl
    | _ => rfl
  | append entry => cases source <;> rfl
  | takeBatches => rfl

/-- A closed store stays closed and as it is, and nothing but what is said can be reported any
more.
-/
theorem file_of_poisoned {e : Evidence} (closed : e.isPoisoned = true) (uptime : Nat) (r : Report)
    : (e.file uptime r).evidence.diagnostics = e.diagnostics
      ∧ (e.file uptime r).evidence.isPoisoned = true
      ∧ ∀ answer, r.failure? poisonedFault = some answer → e.file uptime r = ⟨answer, e, []⟩ := by
  cases r with
  | say record => exact ⟨rfl, closed, nofun⟩
  | _ =>
    simp only [file, closed, if_true]
    refine ⟨trivial, trivial, ?_⟩
    intro answer failed
    cases failed
    rfl

-----------------------------------------------------------------------------
-- The diagnostics

/-- One store is another one after some reports, as far as counts, attempts and notices go. -/
structure Reflects (before : Diagnostics) (reports : List Report) (after : Diagnostics) : Prop where
  counts : ∀ counter,
    (after.counts.get counter).toNat
      = min ((before.counts.get counter).toNat + reports.count (.count counter)) (UInt32.size - 1)
  attempts : after.attempts = before.attempts.pushAll (reports.filterMap Report.attempt?)
  notices : after.notices = before.notices.pushAll (reports.filterMap Report.notice?)

namespace Reflects

variable {first second third : Diagnostics} {reports more : List Report}

theorem none : Reflects first [] first where
  counts counter := by
    have bound := UInt32.toNat_lt (first.counts.get counter)
    rw [List.count_nil, UInt32.size]
    omega
  attempts := rfl
  notices := rfl

theorem trans (one : Reflects first reports second) (other : Reflects second more third)
    : Reflects first (reports ++ more) third where
  counts counter := by
    rw [other.counts, one.counts, List.count_append]
    omega
  attempts := by
    rw [other.attempts, one.attempts, List.filterMap_append, Ring.pushAll_append]
  notices := by
    rw [other.notices, one.notices, List.filterMap_append, Ring.pushAll_append]

theorem of_uncounted (uncounted : ∀ counter, Report.count counter ∉ reports)
    (counts : second.counts = first.counts)
    (attempts : second.attempts = first.attempts.pushAll (reports.filterMap Report.attempt?))
    (notices : second.notices = first.notices.pushAll (reports.filterMap Report.notice?))
    : Reflects first reports second where
  counts counter := by
    have same := (none : Reflects first [] first).counts counter
    rw [List.count_nil] at same
    rwa [counts, List.count_eq_zero.2 (uncounted counter)]
  attempts := attempts
  notices := notices

theorem count (counter : Counter) : Reflects first [.count counter] (first.count counter) where
  counts other := by
    have bound := UInt32.toNat_lt (first.counts.get other)
    rw [Diagnostics.count, Counts.get_add]
    by_cases same : counter = other
    · subst same
      rw [if_pos rfl, toNat_increment, List.count_singleton_self]
    · have different : ([Report.count counter] : List Report).count (.count other) = 0 := by
        simp [same]
      rw [if_neg same, different, UInt32.size]
      omega
  attempts := rfl
  notices := rfl

end Reflects

/-- Each thing that is done to a store that is not closed is reflected in it, also if there is no
log to set aside. By cases over what is done.
-/
theorem reflects {e : Evidence} (works : e.isPoisoned = false) (act : Act)
    : Reflects e.diagnostics act.deposit?.toList (e.perform act).diagnostics := by
  obtain ⟨journal, source, diagnostics, isPoisoned⟩ := e
  cases works
  cases act with
  | file uptime report =>
    cases report with
    | say record => exact .none
    | count counter => exact .count counter
    | attempt | notice => exact .of_uncounted (by simp [Act.deposit?, Report.deposit?]) rfl rfl rfl
    | keepLog =>
      cases source <;> exact .of_uncounted (by simp [Act.deposit?, Report.deposit?]) rfl rfl rfl
  | append entry => cases source <;> exact .none
  | takeBatches => exact .of_uncounted nofun rfl rfl rfl

theorem isPoisoned_perform (e : Evidence) (act : Act)
    : (e.perform act).isPoisoned = e.isPoisoned := by
  obtain ⟨journal, source, diagnostics, isPoisoned⟩ := e
  cases act with
  | file uptime report => cases report <;> cases isPoisoned <;> cases source <;> rfl
  | append entry => cases source <;> rfl
  | takeBatches => rfl

/-- All that is done to a store that is not closed is reflected in it and does not close it, by
induction over what is done.
-/
theorem reflects_all {e : Evidence} (works : e.isPoisoned = false) (acts : List Act)
    : Reflects e.diagnostics (deposits acts) (e.performAll acts).diagnostics := by
  induction acts generalizing e with
  | nil => exact .none
  | cons act rest ih =>
    rw [deposits_cons]
    exact (reflects works act).trans (ih ((isPoisoned_perform e act).trans works))

theorem IsOpen.performAll {e : Evidence} (isOpen : e.IsOpen) (acts : List Act)
    : (e.performAll acts).IsOpen := by
  induction acts generalizing e with
  | nil => exact isOpen
  | cons act rest ih => exact ih (isOpen.perform act)

/-- All that is done to an open store is reflected in it and leaves it open. -/
theorem IsOpen.reflects_all {e : Evidence} (isOpen : e.IsOpen) (acts : List Act)
    : Reflects e.diagnostics (deposits acts) (e.performAll acts).diagnostics
      ∧ (e.performAll acts).IsOpen :=
  ⟨Evidence.reflects_all isOpen.1 acts, isOpen.performAll acts⟩

-----------------------------------------------------------------------------
-- Batches

theorem IsOpen.batches_keepLog {e : Evidence} (isOpen : e.IsOpen) (uptime : Nat)
    : (e.perform (.file uptime .keepLog)).diagnostics.batches
      = e.diagnostics.batches.push e.log := by
  rw [isOpen.diagnostics_perform]
  rfl

theorem Act.eq_file_keepLog {act : Act} (keeps : act.deposit? = some .keepLog)
    : ∃ uptime, act = .file uptime .keepLog := by
  cases act with
  | file uptime report =>
    cases report with
    | keepLog => exact ⟨uptime, rfl⟩
    | _ => cases keeps
  | append | takeBatches => cases keeps

theorem IsOpen.batches_of_ne {e : Evidence} (isOpen : e.IsOpen) {act : Act}
    (keepsNone : act.deposit? ≠ some .keepLog) (takesNone : act ≠ .takeBatches)
    : (e.perform act).diagnostics.batches = e.diagnostics.batches := by
  rw [isOpen.diagnostics_perform]
  cases act with
  | file uptime report =>
    cases report with
    | keepLog => exact absurd rfl keepsNone
    | _ => rfl
  | append entry => rfl
  | takeBatches => exact absurd rfl takesNone

theorem IsOpen.capacity_batches {e : Evidence} (isOpen : e.IsOpen) (acts : List Act)
    : (e.performAll acts).diagnostics.batches.capacity = e.diagnostics.batches.capacity := by
  induction acts generalizing e with
  | nil => rfl
  | cons act rest ih =>
    rw [performAll_cons, ih (isOpen.perform act), isOpen.diagnostics_perform]
    cases act with
    | file uptime report => cases report <;> rfl
    | append | takeBatches => rfl

/-- As long as no batches are taken there is one more whenever the log is set aside, as far as there
is room. By induction over what is done.
-/
theorem IsOpen.size_batches {e : Evidence} (isOpen : e.IsOpen) {acts : List Act}
    (takesNone : Act.takeBatches ∉ acts)
    : (e.performAll acts).diagnostics.batches.size
      = min e.diagnostics.batches.capacity
          (e.diagnostics.batches.size + (deposits acts).count .keepLog) := by
  induction acts generalizing e with
  | nil =>
    have bound := e.diagnostics.batches.length_le
    rw [performAll_nil, deposits, List.filterMap_nil, List.count_nil, Ring.size]
    omega
  | cons act rest ih =>
    rw [List.mem_cons, not_or] at takesNone
    have capacity := isOpen.capacity_batches [act]
    rw [performAll_cons, performAll_nil] at capacity
    rw [performAll_cons, deposits_cons, List.count_append, ih (isOpen.perform act) takesNone.2,
      capacity]
    by_cases keeps : act.deposit? = some .keepLog
    · obtain ⟨uptime, rfl⟩ := Act.eq_file_keepLog keeps
      have one : (Act.file uptime .keepLog).deposit?.toList.count .keepLog = 1 := rfl
      -- A full ring drops its oldest batch, so one more leaves the number at the capacity.
      have length := length_newest e.diagnostics.batches.capacity
        (e.diagnostics.batches.values ++ [e.log])
      rw [List.length_append, List.length_singleton] at length
      rw [one, isOpen.batches_keepLog, Ring.size, Ring.values_push, length, Ring.size]
      omega
    · have zero : act.deposit?.toList.count .keepLog = 0 := by
        rw [List.count_eq_zero, Option.mem_toList]
        exact keeps
      rw [zero, isOpen.batches_of_ne keeps (Ne.symm takesNone.1), Nat.zero_add]

/-- The batches stay as they are while the log is not set aside and no batches are taken, by
induction over what is done.
-/
theorem IsOpen.batches_of_uninvolved {e : Evidence} (isOpen : e.IsOpen) {acts : List Act}
    (keepsNone : .keepLog ∉ deposits acts) (takesNone : Act.takeBatches ∉ acts)
    : (e.performAll acts).diagnostics.batches = e.diagnostics.batches := by
  induction acts generalizing e with
  | nil => rfl
  | cons act rest ih =>
    rw [List.mem_cons, not_or] at takesNone
    rw [deposits_cons, List.mem_append, not_or] at keepsNone
    rw [performAll_cons, ih (isOpen.perform act) keepsNone.2 takesNone.2]
    refine isOpen.batches_of_ne (fun keeps => keepsNone.1 ?_) (Ne.symm takesNone.1)
    exact Option.mem_toList.2 keeps

-----------------------------------------------------------------------------
-- The journal

/-- The entries that have come into the journal since it was set aside last, once something more is
done. To set it aside is the first thing that is said about the time after that.
-/
def Act.noted (threshold : Log.Threshold) (entries : List Log.Entry) : Act → List Log.Entry
  | .file uptime (.say record) => entries ++ threshold.entries uptime record
  | .file uptime (.notice event) => entries ++ threshold.entries uptime (noticeRecord event)
  | .file uptime .keepLog =>
    threshold.entries uptime (batchRecord (newest Log.defaultCapacity entries))
  | _ => entries

/-- The entries that have come into the journal since it was set aside last. -/
def sinceKept (threshold : Log.Threshold) (acts : List Act) : List Log.Entry :=
  acts.foldl (Act.noted threshold) []

theorem sinceKept_append (threshold : Log.Threshold) (acts more : List Act)
    : sinceKept threshold (acts ++ more)
      = more.foldl (Act.noted threshold) (sinceKept threshold acts) :=
  List.foldl_append

/-- The store sets its journal aside, which holds the newest of some entries. -/
structure Journals (threshold : Log.Threshold) (entries : List Log.Entry) (e : Evidence)
    : Prop where
  isOpen : e.isPoisoned = false
  source : e.source = .journal
  threshold : e.journal.threshold = threshold
  capacity : e.journal.ring.capacity = Log.defaultCapacity
  values : e.journal.ring.values = newest Log.defaultCapacity entries

namespace Journals

variable {threshold : Log.Threshold} {entries : List Log.Entry} {e : Evidence}

theorem empty : Journals threshold [] (.empty threshold .journal) where
  isOpen := rfl
  source := rfl
  threshold := rfl
  capacity := rfl
  values := rfl

theorem working (journals : Journals threshold entries e) : e.IsOpen := by
  refine ⟨journals.isOpen, ?_⟩
  rw [journals.source]
  exact nofun

theorem log_eq (journals : Journals threshold entries e)
    : e.log = newest Log.defaultCapacity entries := by
  rw [log, journals.source]
  exact journals.values

/-- What is said comes into the journal, if its level is kept. -/
theorem say (journals : Journals threshold entries e) (uptime : Nat) (record : Log.Record)
    : Journals threshold (entries ++ threshold.entries uptime record)
        (e.say uptime record).evidence where
  isOpen := journals.isOpen
  source := journals.source
  threshold := (Log.Journal.threshold_note ..).trans journals.threshold
  capacity := by
    rw [Evidence.say, Log.Journal.ring_note, Ring.capacity_pushAll]
    exact journals.capacity
  values := by
    rw [Evidence.say, Log.Journal.ring_note, Ring.values_pushAll, journals.capacity,
      journals.values, newest_append_newest, journals.threshold]

theorem update (journals : Journals threshold entries e) (change : Diagnostics → Diagnostics)
    : Journals threshold entries (e.update change) :=
  ⟨journals.isOpen, journals.source, journals.threshold, journals.capacity, journals.values⟩

/-- All that the journal holds is set aside. -/
theorem takeLog (journals : Journals threshold entries e)
    : ∃ taken, e.takeLog = some (newest Log.defaultCapacity entries, taken)
      ∧ Journals threshold [] taken := by
  unfold Evidence.takeLog
  rw [journals.source, ← journals.values]
  exact ⟨_, rfl, journals.isOpen, rfl, journals.threshold, journals.capacity, rfl⟩

/-- Whatever is done, the journal holds the newest entries since it was set aside. By cases over
what is done.
-/
theorem perform (journals : Journals threshold entries e) (act : Act)
    : Journals threshold (act.noted threshold entries) (e.perform act) := by
  cases act with
  | file uptime report =>
    cases report with
    | say record => exact journals.say uptime record
    | count counter =>
      rw [Evidence.perform, file, journals.isOpen, if_neg Bool.false_ne_true]
      exact journals.update (·.count counter)
    | attempt record =>
      rw [Evidence.perform, file, journals.isOpen, if_neg Bool.false_ne_true]
      exact journals.update (·.recordAttempt record)
    | notice event =>
      rw [Evidence.perform, file, journals.isOpen, if_neg Bool.false_ne_true]
      exact (journals.say uptime (noticeRecord event)).update (·.notify event)
    | keepLog =>
      obtain ⟨taken, isTaken, emptied⟩ := journals.takeLog
      rw [Evidence.perform, file, journals.isOpen, if_neg Bool.false_ne_true, keepLog, isTaken]
      -- What is said about the batch is not in it, but is the first entry behind it.
      exact (emptied.say uptime _).update (·.keepBatch (newest Log.defaultCapacity entries))
  | append entry =>
    rw [Evidence.perform, append, journals.source]
    exact journals
  | takeBatches =>
    exact ⟨journals.isOpen, journals.source, journals.threshold, journals.capacity, journals.values⟩

/-- The same for all that is done, by induction over it. -/
theorem performAll (journals : Journals threshold entries e) (acts : List Act)
    : Journals threshold (acts.foldl (Act.noted threshold) entries) (e.performAll acts) := by
  induction acts generalizing entries e with
  | nil => exact journals
  | cons act rest ih => exact ih (journals.perform act)

end Journals

end Evidence

end Caretaker
