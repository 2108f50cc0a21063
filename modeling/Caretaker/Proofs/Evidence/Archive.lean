import Caretaker.Proofs.Evidence.Acts
import Caretaker.Proofs.Log.Ring

/-!
What becomes of the lines of a log that is set aside in batches. A line is lost in the ring if it is
full of newer ones before it is set aside, and with its batch if enough newer batches are set aside
before it is handed out. All other lines come out in the order in which they came in, each of them
once.
-/

namespace Caretaker.Evidence

-----------------------------------------------------------------------------
-- Archives

/-- The ring that log lines come into, and the batches that were set aside from it. -/
structure Archive where
  lines : Ring Log.Entry
  batches : Ring (List Log.Entry)

/-- What can happen to an archive. -/
inductive Move where
  | arrive (line : Log.Entry)
  | setAside
  | handOut

def Move.line? : Move → Option Log.Entry
  | .arrive line => some line
  | .setAside | .handOut => none

/-- The lines that arrive, in order. -/
def arrivals (moves : List Move) : List Log.Entry :=
  moves.filterMap Move.line?

/-- How many lines arrive before the log is set aside next. -/
def linesAhead : List Move → Nat
  | .arrive _ :: rest => linesAhead rest + 1
  | .handOut :: rest => linesAhead rest
  | .setAside :: _ | [] => 0

/-- How many batches are set aside before batches are handed out next. -/
def batchesAhead : List Move → Nat
  | .setAside :: rest => batchesAhead rest + 1
  | .arrive _ :: rest => batchesAhead rest
  | .handOut :: _ | [] => 0

/-- How many batches are set aside behind the next one before it is handed out. -/
def batchesBehindNext : List Move → Nat
  | .setAside :: rest => batchesAhead rest
  | .arrive _ :: rest | .handOut :: rest => batchesBehindNext rest
  | [] => 0

/-- A line outlasts what happens behind it if fewer lines than there is room for arrive before the
log is set aside, and fewer batches than there is room for are set aside behind its own before that
is handed out.
-/
def Outlasts (lineRoom batchRoom : Nat) (later : List Move) : Prop :=
  linesAhead later < lineRoom ∧ batchesBehindNext later < batchRoom

instance (lineRoom batchRoom : Nat) (later : List Move)
    : Decidable (Outlasts lineRoom batchRoom later) :=
  inferInstanceAs (Decidable (_ ∧ _))

/-- The lines that outlast what happens behind each of them, in the order of their arrival. -/
def lasting (lineRoom batchRoom : Nat) : List Move → List Log.Entry
  | .arrive line :: rest =>
    if Outlasts lineRoom batchRoom rest then
      line :: lasting lineRoom batchRoom rest
    else
      lasting lineRoom batchRoom rest
  | .setAside :: rest | .handOut :: rest => lasting lineRoom batchRoom rest
  | [] => []

/-- No line lasts that has not arrived, and none more often, by induction over what happens. -/
theorem lasting_sublist (lineRoom batchRoom : Nat) (moves : List Move)
    : (lasting lineRoom batchRoom moves).Sublist (arrivals moves) := by
  induction moves with
  | nil => exact .slnil
  | cons move rest ih =>
    cases move with
    | arrive line =>
      rw [lasting]
      split
      · exact ih.cons_cons line
      · exact ih.cons line
    | setAside | handOut => exact ih

namespace Archive

/-- The archive once something has happened to it. -/
def move (a : Archive) : Move → Archive
  | .arrive line => { a with lines := a.lines.push line }
  | .setAside => ⟨a.lines.clear, a.batches.push a.lines.values⟩
  | .handOut => { a with batches := a.batches.clear }

def moveAll (a : Archive) (moves : List Move) : Archive :=
  moves.foldl move a

/-- The batches that are handed out, for each time that this is done. -/
def handedOut (a : Archive) : List Move → List (List (List Log.Entry))
  | .handOut :: rest => a.batches.values :: (a.move .handOut).handedOut rest
  | m :: rest => (a.move m).handedOut rest
  | [] => []

/-- All lines that an archive holds, oldest first. -/
def held (a : Archive) : List Log.Entry :=
  a.batches.values.flatten ++ a.lines.values

variable {a : Archive}

theorem moveAll_cons (a : Archive) (m : Move) (rest : List Move)
    : a.moveAll (m :: rest) = (a.move m).moveAll rest := rfl

theorem moveAll_append (a : Archive) (moves more : List Move)
    : a.moveAll (moves ++ more) = (a.moveAll moves).moveAll more :=
  List.foldl_append

theorem handedOut_append (a : Archive) (moves more : List Move)
    : a.handedOut (moves ++ more) = a.handedOut moves ++ (a.moveAll moves).handedOut more := by
  induction moves generalizing a with
  | nil => rfl
  | cons m rest ih =>
    cases m with
    | handOut => exact congrArg (_ :: ·) (ih _)
    | arrive | setAside => exact ih _

/-- As long as it is not done, nothing is handed out. By induction over what happens. -/
theorem handedOut_of_not_mem {moves : List Move} (kept : .handOut ∉ moves)
    : a.handedOut moves = [] := by
  induction moves generalizing a with
  | nil => rfl
  | cons m rest ih =>
    rw [List.mem_cons, not_or] at kept
    cases m with
    | handOut => exact absurd rfl kept.1
    | arrive | setAside => exact ih kept.2

-----------------------------------------------------------------------------
-- The lines of an archive

/-- The lines that outlast what happens: of those in batches, in the ring and on their way. A line
in the ring needs room there until it is set aside, and room for its batch behind that.
-/
def outlasting (a : Archive) (moves : List Move) : List Log.Entry :=
  (newest (a.batches.capacity - batchesAhead moves) a.batches.values).flatten
    ++ (if batchesBehindNext moves < a.batches.capacity then
        newest (a.lines.capacity - linesAhead moves) a.lines.values
      else
        [])
    ++ lasting a.lines.capacity a.batches.capacity moves

theorem outlasting_nil (room : 0 < a.batches.capacity) : a.outlasting [] = a.held := by
  rw [outlasting, batchesBehindNext, if_pos room, lasting, List.append_nil, batchesAhead,
    linesAhead, Nat.sub_zero, Nat.sub_zero, newest_of_length_le a.batches.length_le,
    newest_of_length_le a.lines.length_le, held]

/-- A line that arrives counts among those in the ring, of which it is the newest. -/
theorem outlasting_arrive (line : Log.Entry) (rest : List Move)
    : (a.move (.arrive line)).outlasting rest = a.outlasting (.arrive line :: rest) := by
  simp only [outlasting, move, Ring.capacity_push, Ring.newest_values_push, batchesAhead,
    batchesBehindNext, linesAhead, lasting, Outlasts]
  by_cases kept : batchesBehindNext rest < a.batches.capacity <;>
    by_cases fits : linesAhead rest < a.lines.capacity <;> simp [kept, fits]

/-- The lines that are set aside count among those in batches, and none is left in the ring. -/
theorem outlasting_setAside (rest : List Move)
    : (a.move .setAside).outlasting rest = a.outlasting (.setAside :: rest) := by
  simp only [outlasting, move, Ring.capacity_push, Ring.capacity_clear, Ring.values_clear,
    batchesAhead, batchesBehindNext, linesAhead, lasting, Ring.newest_values_push, newest_nil,
    ite_self, List.append_nil, List.flatten_append, Nat.sub_zero,
    newest_of_length_le a.lines.length_le]
  by_cases kept : batchesAhead rest < a.batches.capacity <;> simp [kept]

/-- Nothing can happen any more to the lines that are handed out. -/
theorem outlasting_handOut (rest : List Move)
    : a.batches.values.flatten ++ (a.move .handOut).outlasting rest
      = a.outlasting (.handOut :: rest) := by
  have all := newest_of_length_le a.batches.length_le
  by_cases kept : batchesBehindNext rest < a.batches.capacity <;>
    simp [outlasting, move, batchesAhead, batchesBehindNext, linesAhead, lasting, kept, all]

/-- Just the lines that outlast what happens are handed out or held in the end, in their order. By
induction over what happens.
-/
theorem handedOut_append_held (moves : List Move) (room : 0 < a.batches.capacity)
    : (a.handedOut moves).flatten.flatten ++ (a.moveAll moves).held = a.outlasting moves := by
  induction moves generalizing a with
  | nil => exact (outlasting_nil room).symm
  | cons m rest ih =>
    have behind := ih (a := a.move m)
    cases m with
    | arrive line => exact (behind room).trans (outlasting_arrive line rest)
    | setAside => exact (behind room).trans (outlasting_setAside rest)
    | handOut =>
      rw [← outlasting_handOut, ← behind room, handedOut, List.flatten_cons, List.flatten_append,
        List.append_assoc, moveAll_cons]

end Archive

-----------------------------------------------------------------------------
-- The archive of evidence

variable {e : Evidence}

/-- The ring that the log is taken from when it is set aside, if there is a log. -/
def logRing? (e : Evidence) : Option (Ring Log.Entry) :=
  match e.source with
  | .nothing => none
  | .journal => some e.journal.ring
  | .ring entries => some entries

/-- The log and the batches that were set aside from it. -/
def archive (e : Evidence) : Archive :=
  ⟨e.logRing?.getD (.empty 0), e.diagnostics.batches⟩

/-- What happens to the archive of an open store when something is done. Where the log is the
journal, a line arrives with all that is said, also about a batch once it is set aside.
-/
def Act.moves (e : Evidence) : Act → List Move
  | .file uptime report =>
    (if report = .keepLog then [.setAside] else [])
      ++ (if e.source = .journal then
          (e.file uptime report).records.map fun record => .arrive (record.entry uptime)
        else
          [])
  | .append entry =>
    match e.source with
    | .ring _ => [.arrive entry]
    | .nothing | .journal => []
  | .takeBatches => [.handOut]

/-- What happens to the archive when some things are done. -/
def moves (e : Evidence) : List Act → List Move
  | act :: rest => act.moves e ++ (e.perform act).moves rest
  | [] => []

/-- The batches that are handed out, for each time that this is done. -/
def handedOut (e : Evidence) : List Act → List (List (List Log.Entry))
  | .takeBatches :: rest => e.takeBatches.1 :: (e.perform .takeBatches).handedOut rest
  | act :: rest => (e.perform act).handedOut rest
  | [] => []

/-- What is in the log whenever it is to be set aside. -/
def setAside (e : Evidence) : List Act → List (List Log.Entry)
  | .file uptime .keepLog :: rest => e.log :: (e.perform (.file uptime .keepLog)).setAside rest
  | act :: rest => (e.perform act).setAside rest
  | [] => []

theorem archive_say (journal : Log.Journal) (diagnostics : Diagnostics) (isPoisoned : Bool)
    (uptime : Nat) (record : Log.Record)
    : (say ⟨journal, .journal, diagnostics, isPoisoned⟩ uptime record).evidence.archive
      = (archive ⟨journal, .journal, diagnostics, isPoisoned⟩).moveAll
          ((say ⟨journal, .journal, diagnostics, isPoisoned⟩ uptime record).records.map
            fun record => .arrive (record.entry uptime)) := by
  unfold say Log.Journal.note
  split <;> rfl

/-- The archive follows what is done, by cases over what this is. -/
theorem IsOpen.archive_perform (isOpen : e.IsOpen) (act : Act)
    : (e.perform act).archive = e.archive.moveAll (act.moves e) := by
  obtain ⟨journal, source, diagnostics, isPoisoned⟩ := e
  obtain ⟨rfl, hasLog⟩ := isOpen
  cases source with
  | nothing => exact absurd rfl hasLog
  | ring entries =>
    cases act with
    | file uptime report => cases report <;> rfl
    | append | takeBatches => rfl
  | journal =>
    cases act with
    | file uptime report =>
      cases report with
      | say record => exact archive_say ..
      | count | attempt => rfl
      | notice event =>
        exact archive_say journal (diagnostics.notify event) false uptime (noticeRecord event)
      | keepLog =>
        exact archive_say ⟨journal.threshold, journal.ring.clear⟩
          (diagnostics.keepBatch journal.ring.values) false uptime (batchRecord journal.ring.values)
    | append | takeBatches => rfl

theorem Act.handOut_not_mem_moves {act : Act} (takesNone : act ≠ .takeBatches)
    : .handOut ∉ act.moves e := by
  cases act with
  | file uptime report =>
    intro member
    rcases List.mem_append.1 member with kept | said
    · split at kept <;> simp at kept
    · split at said <;> simp at said
  | append entry =>
    rw [moves]
    split <;> simp
  | takeBatches => exact absurd rfl takesNone

theorem Act.handedOut_of_ne {act : Act} (takesNone : act ≠ .takeBatches) (rest : List Act)
    : e.handedOut (act :: rest) = (e.perform act).handedOut rest := by
  cases act with
  | takeBatches => exact absurd rfl takesNone
  | file | append => rfl

/-- The archive follows all that is done, and what is handed out comes from it. By induction over
what is done.
-/
theorem IsOpen.archive_performAll (isOpen : e.IsOpen) (acts : List Act)
    : (e.performAll acts).archive = e.archive.moveAll (e.moves acts)
      ∧ e.handedOut acts = e.archive.handedOut (e.moves acts) := by
  induction acts generalizing e with
  | nil => exact ⟨rfl, rfl⟩
  | cons act rest ih =>
    obtain ⟨held, out⟩ := ih (isOpen.perform act)
    -- Both sides go on from the archive once the first thing has been done.
    have follows := isOpen.archive_perform act
    rw [performAll_cons, held, moves, Archive.moveAll_append, ← follows, Archive.handedOut_append,
      ← follows, ← out]
    refine ⟨rfl, ?_⟩
    by_cases takes : act = .takeBatches
    · rw [takes]
      rfl
    · rw [Act.handedOut_of_ne takes,
        Archive.handedOut_of_not_mem (Act.handOut_not_mem_moves takes), List.nil_append]

-----------------------------------------------------------------------------
-- The batches of evidence

theorem setAside_of_ne {act : Act} (keepsNone : act.deposit? ≠ some .keepLog) (rest : List Act)
    : e.setAside (act :: rest) = (e.perform act).setAside rest := by
  cases act with
  | file uptime report =>
    cases report with
    | keepLog => exact absurd rfl keepsNone
    | _ => rfl
  | append | takeBatches => rfl

/-- No batch comes out or is pending that was not set aside, and none more often. By induction over
what is done.
-/
theorem IsOpen.batches_sublist (isOpen : e.IsOpen) (acts : List Act)
    : ((e.handedOut acts).flatten ++ (e.performAll acts).diagnostics.batches.values).Sublist
        (e.diagnostics.batches.values ++ e.setAside acts) := by
  induction acts generalizing e with
  | nil =>
    rw [setAside, List.append_nil]
    exact .refl _
  | cons act rest ih =>
    have behind := ih (isOpen.perform act)
    by_cases takes : act = .takeBatches
    · subst takes
      rw [handedOut, List.flatten_cons, List.append_assoc]
      exact behind.append_left e.diagnostics.batches.values
    · rw [Act.handedOut_of_ne takes, performAll_cons]
      refine behind.trans ?_
      by_cases keeps : act.deposit? = some .keepLog
      · -- A full ring of batches drops its oldest one, and the others stay in order.
        obtain ⟨uptime, rfl⟩ := Act.eq_file_keepLog keeps
        rw [isOpen.batches_keepLog, setAside, ← List.singleton_append, ← List.append_assoc]
        exact (newest_suffix ..).sublist.append_right _
      · have same : (e.perform act).diagnostics.batches.values ++ (e.perform act).setAside rest
            = e.diagnostics.batches.values ++ e.setAside (act :: rest) := by
          rw [isOpen.batches_of_ne keeps takes, setAside_of_ne keeps]
        exact same ▸ .refl _

/-- As long as none are taken, the batches that are set aside come in one after the other. By
induction over what is done.
-/
theorem IsOpen.batches_of_takes_none (isOpen : e.IsOpen) {acts : List Act}
    (takesNone : Act.takeBatches ∉ acts)
    : (e.performAll acts).diagnostics.batches
      = e.diagnostics.batches.pushAll (e.setAside acts) := by
  induction acts generalizing e with
  | nil => rfl
  | cons act rest ih =>
    rw [List.mem_cons, not_or] at takesNone
    rw [performAll_cons, ih (isOpen.perform act) takesNone.2]
    by_cases keeps : act.deposit? = some .keepLog
    · obtain ⟨uptime, rfl⟩ := Act.eq_file_keepLog keeps
      rw [isOpen.batches_keepLog]
      rfl
    · rw [isOpen.batches_of_ne keeps (Ne.symm takesNone.1), setAside_of_ne keeps]

/-- No batch is pending behind some acts: nothing has been done yet, or the batches have been taken
just now.
-/
def Emptied (acts : List Act) : Prop :=
  acts = [] ∨ ∃ before, acts = before ++ [.takeBatches]

/-- Whatever is done, there is a part of it since the batches were taken last. By induction over
what is done, from its end.
-/
theorem exists_emptied (acts : List Act)
    : ∃ earlier since, acts = earlier ++ since ∧ Emptied earlier ∧ .takeBatches ∉ since := by
  induction acts using List.reverseRecOn with
  | nil => exact ⟨[], [], rfl, .inl rfl, List.not_mem_nil⟩
  | append_singleton acts act ih =>
    by_cases takes : act = .takeBatches
    · subst takes
      exact ⟨_, [], (List.append_nil _).symm, .inr ⟨acts, rfl⟩, List.not_mem_nil⟩
    · obtain ⟨earlier, since, rfl, emptied, takesNone⟩ := ih
      refine ⟨earlier, since ++ [act], List.append_assoc .., emptied, ?_⟩
      rw [List.mem_append, List.mem_singleton, not_or]
      exact ⟨takesNone, Ne.symm takes⟩

theorem IsOpen.batches_of_emptied (isOpen : e.IsOpen)
    (empty : e.diagnostics.batches = .empty Diagnostics.historyLimit) {acts : List Act}
    (emptied : Emptied acts)
    : (e.performAll acts).diagnostics.batches = .empty Diagnostics.historyLimit := by
  obtain rfl | ⟨before, rfl⟩ := emptied
  · exact empty
  · have capacity := isOpen.capacity_batches before
    rw [empty, Ring.capacity_empty] at capacity
    rw [performAll_append, ← capacity]
    rfl

-----------------------------------------------------------------------------
-- All that is kept

theorem logRing?_eq_none_iff : e.logRing? = none ↔ e.source = .nothing := by
  rw [logRing?]
  cases e.source <;> simp

theorem isOpen_of_logRing {ring : Ring Log.Entry} (works : e.isPoisoned = false)
    (hasLog : e.logRing? = some ring)
    : e.IsOpen := by
  refine ⟨works, ?_⟩
  rw [ne_eq, ← logRing?_eq_none_iff, hasLog]
  exact Option.some_ne_none ring

/-- Pending are the newest of the batches that have been set aside since batches were taken. -/
theorem IsOpen.pending_isNewest (isOpen : e.IsOpen)
    (empty : e.diagnostics.batches = .empty Diagnostics.historyLimit) (acts : List Act)
    : ∃ earlier since, acts = earlier ++ since
      ∧ Emptied earlier
      ∧ .takeBatches ∉ since
      ∧ IsNewest Diagnostics.historyLimit ((e.performAll earlier).setAside since)
        (e.performAll acts).diagnostics.batches.values := by
  obtain ⟨earlier, since, rfl, emptied, takesNone⟩ := exists_emptied acts
  refine ⟨earlier, since, rfl, emptied, takesNone, ?_⟩
  rw [performAll_append, (isOpen.performAll earlier).batches_of_takes_none takesNone,
    isOpen.batches_of_emptied empty emptied, Ring.values_pushAll]
  exact isNewest_newest ..

/-- Lines that are handed out, pending or still in the log are those that outlast what is done
behind them.
-/
theorem lines_eq_lasting {capacity : Nat} (works : e.isPoisoned = false)
    (empty : e.diagnostics.batches = .empty Diagnostics.historyLimit)
    (hasLog : e.logRing? = some (Log.emptyRing capacity)) (acts : List Act)
    : (e.handedOut acts).flatten.flatten
        ++ (e.performAll acts).diagnostics.batches.values.flatten ++ (e.performAll acts).log
      = lasting (max capacity 1) Diagnostics.historyLimit (e.moves acts) := by
  have isOpen := isOpen_of_logRing works hasLog
  obtain ⟨held, out⟩ := isOpen.archive_performAll acts
  have archived : e.archive = ⟨Log.emptyRing capacity, .empty Diagnostics.historyLimit⟩ := by
    rw [archive, hasLog, empty]
    rfl
  have log : (e.performAll acts).log = (e.performAll acts).archive.lines.values := by
    rw [Evidence.log, archive, logRing?]
    cases (e.performAll acts).source <;> rfl
  have lines := Archive.handedOut_append_held (a := e.archive) (e.moves acts)
    (by rw [archived]; exact Nat.succ_pos 15)
  rw [← out, ← held, archived] at lines
  simpa [Archive.held, Archive.outlasting, log, Log.emptyRing, archive] using lines

/-- What is done to a log of its own. -/
def Act.move? : Act → Option Move
  | .file _ .keepLog => some .setAside
  | .file _ _ => none
  | .append entry => some (.arrive entry)
  | .takeBatches => some .handOut

/-- To a log of its own happens just what is done to it, by induction over what is done. -/
theorem moves_of_ring {ring : Ring Log.Entry} (works : e.isPoisoned = false)
    (own : e.source = .ring ring) (acts : List Act)
    : e.moves acts = acts.filterMap Act.move? := by
  obtain ⟨journal, source, diagnostics, isPoisoned⟩ := e
  cases works
  cases own
  induction acts generalizing journal ring diagnostics with
  | nil => rfl
  | cons act rest ih =>
    cases act with
    | file uptime report =>
      cases report with
      | keepLog => exact congrArg (_ :: ·) (ih ..)
      | _ => exact ih ..
    | append entry => exact congrArg (_ :: ·) (ih ..)
    | takeBatches => exact congrArg (_ :: ·) (ih ..)

/-- Without a log, none can be set aside, nothing else comes of the attempt, and nothing comes out
when batches are taken. By induction over what is done.
-/
theorem without_log (works : e.isPoisoned = false) (noLog : e.source = .nothing)
    (none : e.diagnostics.batches.values = []) (acts : List Act)
    : (∀ uptime, (e.performAll acts).file uptime .keepLog
        = ⟨.error noLogFault, e.performAll acts, []⟩)
      ∧ (e.performAll acts).diagnostics.batches.values = []
      ∧ ∀ batches ∈ e.handedOut acts, batches = [] := by
  induction acts generalizing e with
  | nil =>
    refine ⟨?_, none, nofun⟩
    intro uptime
    rw [performAll_nil, file, works, if_neg Bool.false_ne_true, keepLog, takeLog, noLog]
  | cons act rest ih =>
    have stillWorks := (isPoisoned_perform e act).trans works
    have unchanged : (e.perform act).source = .nothing
        ∧ (e.perform act).diagnostics.batches.values = [] := by
      obtain ⟨journal, source, diagnostics, isPoisoned⟩ := e
      cases works
      cases noLog
      cases act with
      | file uptime report => cases report <;> exact ⟨rfl, none⟩
      | append entry => exact ⟨rfl, none⟩
      | takeBatches => exact ⟨rfl, rfl⟩
    obtain ⟨fails, pending, out⟩ := ih stillWorks unchanged.1 unchanged.2
    refine ⟨fails, pending, ?_⟩
    by_cases takes : act = .takeBatches
    · subst takes
      exact List.forall_mem_cons.2 ⟨none, out⟩
    · rw [Act.handedOut_of_ne takes]
      exact out

/-- Every line of a log is accounted for, whatever is done to evidence that is new and works. Those
that are handed out, pending or in the log are, in this order and each once, the lines that outlast
what is done behind them. So a line is lost only to as many newer ones as the log has room for
before it is set aside, or with its batch to 16 newer ones before that is handed out. A batch comes
out once, and pending are the newest 16 since batches were taken. Nothing that is reported fails,
and what happens to a log of its own is just what is done to it.

Without a log none can be set aside, and nothing else comes of the attempt. In either case the
attempts and the notices are the newest 16 that were reported, and each counter tells how often it
was counted, as far as 32 bits go.
-/
theorem lines_are_accounted_for (works : e.isPoisoned = false) (new : e.diagnostics = .empty)
    (acts : List Act)
    : let last := e.performAll acts
      let pending := last.diagnostics.batches.values
      (∀ capacity, e.logRing? = some (Log.emptyRing capacity)
        → (e.handedOut acts).flatten.flatten ++ pending.flatten ++ last.log
            = lasting (max capacity 1) 16 (e.moves acts)
          ∧ (lasting (max capacity 1) 16 (e.moves acts)).Sublist (arrivals (e.moves acts))
          ∧ ((e.handedOut acts).flatten ++ pending).Sublist (e.setAside acts)
          ∧ (∃ earlier since, acts = earlier ++ since
            ∧ Emptied earlier
            ∧ .takeBatches ∉ since
            ∧ IsNewest 16 ((e.performAll earlier).setAside since) pending)
          ∧ (∀ uptime r, (last.file uptime r).answer = r.taken)
          ∧ ∀ ring, e.source = .ring ring → e.moves acts = acts.filterMap Act.move?)
      ∧ (e.logRing? = none
        → (∀ uptime, last.file uptime .keepLog = ⟨.error ⟨"no log buffer attached"⟩, last, []⟩)
          ∧ pending = []
          ∧ ∀ batches ∈ e.handedOut acts, batches = [])
      ∧ IsNewest 16 ((deposits acts).filterMap Report.attempt?) last.diagnostics.attempts.values
      ∧ IsNewest 16 ((deposits acts).filterMap Report.notice?) last.diagnostics.notices.values
      ∧ ∀ counter, (last.diagnostics.counts.get counter).toNat
        = min ((deposits acts).count (.count counter)) (UInt32.size - 1) := by
  intro last pending
  have empty : e.diagnostics.batches = .empty Diagnostics.historyLimit := by
    rw [new]
    rfl
  have reflects := reflects_all works acts
  rw [new] at reflects
  refine ⟨?withLog, ?withoutLog, ?attempts, ?notices, ?counts⟩
  case withLog =>
    intro capacity hasLog
    have isOpen := isOpen_of_logRing works hasLog
    have once := isOpen.batches_sublist acts
    rw [empty, Ring.values_empty, List.nil_append] at once
    exact ⟨lines_eq_lasting works empty hasLog acts, lasting_sublist .., once,
      isOpen.pending_isNewest empty acts, (isOpen.performAll acts).answer_file,
      fun _ own => moves_of_ring works own acts⟩
  case withoutLog =>
    intro none
    exact without_log works (logRing?_eq_none_iff.1 none) (congrArg Ring.values empty) acts
  case attempts =>
    rw [reflects.attempts, Ring.values_pushAll]
    exact isNewest_newest ..
  case notices =>
    rw [reflects.notices, Ring.values_pushAll]
    exact isNewest_newest ..
  case counts =>
    intro counter
    have zero : (Diagnostics.empty.counts.get counter).toNat = 0 := by
      cases counter <;> rfl
    rw [reflects.counts, zero, Nat.zero_add]

/-- Where there is room for two lines, the first of three is lost, the others are handed out with
their batch and one behind them is in the log. Without a log it cannot be set aside.
-/
theorem lines_are_accounted_for_three
    : let line (uptime : Nat) : Log.Entry := ⟨uptime, "INFO", none, "ok"⟩
      let acts : List Act := [.append (line 1), .append (line 2), .append (line 3),
        .file 4 .keepLog, .append (line 5), .takeBatches]
      let own : Evidence := ⟨.empty none, .ring (Log.emptyRing 2), .empty, false⟩
      let bare : Evidence := .empty none .nothing
      (own.handedOut acts).flatten.flatten
          ++ (own.performAll acts).diagnostics.batches.values.flatten ++ (own.performAll acts).log
        = [line 2, line 3, line 5]
      ∧ ((bare.performAll acts).file 7 .keepLog).answer
        = .error ⟨"no log buffer attached"⟩ := by
  intro line acts own bare
  obtain ⟨withLog, -⟩ := lines_are_accounted_for (e := own) rfl rfl acts
  obtain ⟨-, withoutLog, -⟩ := lines_are_accounted_for (e := bare) rfl rfl acts
  obtain ⟨lines, -⟩ := withLog 2 rfl
  obtain ⟨fails, -⟩ := withoutLog rfl
  refine ⟨lines.trans ?_, congrArg Filed.answer (fails 7)⟩
  decide

end Caretaker.Evidence
