import Caretaker.Proofs.Evidence.Chronicle

/-!
The evidence of a failure or of a stuck task is in the batch that is set aside for it, however much
has been said before: what is said between the two always fits into the journal.
-/

namespace Caretaker

open Caretaker.Cycle Liveness Site Step

namespace Evidence

variable {plan : Plan} {mayFail : Report → Prop} {episodes : List Episode} {cycle : Cycle}
  {threshold : Log.Threshold} {least : Log.Level} {past acts : List Act}

-----------------------------------------------------------------------------
-- The newest batch

/-- An act that does not set the journal aside brings at most one entry into it. -/
theorem Act.noted_of_ne (threshold : Log.Threshold) {act : Act}
    (keepsNone : act.deposit? ≠ some .keepLog) (entries : List Log.Entry)
    : ∃ one, act.noted threshold entries = entries ++ one ∧ one.length ≤ 1 := by
  have single (uptime : Nat) (record : Log.Record)
      : (threshold.entries uptime record).length ≤ 1 := by
    unfold Log.Threshold.entries
    split <;> simp
  cases act with
  | file uptime report =>
    cases report with
    | say record => exact ⟨_, rfl, single uptime record⟩
    | notice event => exact ⟨_, rfl, single uptime (noticeRecord event)⟩
    | count | attempt => exact ⟨[], (List.append_nil _).symm, Nat.zero_le 1⟩
    | keepLog => exact absurd rfl keepsNone
  | append | takeBatches => exact ⟨[], (List.append_nil _).symm, Nat.zero_le 1⟩

/-- As long as the journal is not set aside, no more entries come in than things are done. By
induction over what is done.
-/
theorem noted_of_kept_none (threshold : Log.Threshold) {acts : List Act}
    (keepsNone : .keepLog ∉ deposits acts) (entries : List Log.Entry)
    : ∃ more, acts.foldl (Act.noted threshold) entries = entries ++ more
      ∧ more.length ≤ acts.length := by
  induction acts generalizing entries with
  | nil => exact ⟨[], (List.append_nil _).symm, Nat.le_refl 0⟩
  | cons act rest ih =>
    rw [deposits_cons, List.mem_append, not_or, Option.mem_toList] at keepsNone
    obtain ⟨one, noted, short⟩ := act.noted_of_ne threshold keepsNone.1 entries
    obtain ⟨more, others, length⟩ := ih keepsNone.2 (entries ++ one)
    refine ⟨one ++ more, ?_, ?_⟩
    · rw [List.foldl_cons, noted, others, List.append_assoc]
    · rw [List.length_append, List.length_cons]
      omega

/-- Some acts behind others leave a batch that tells something: the journal is set aside among them,
the newest pending batch holds the newest 64 of the entries that had come in since it was set aside
before, and one of these is as given, at some time.
-/
def LeavesBatch (least : Log.Level) (past acts : List Act) (entry : Nat → Log.Entry) : Prop :=
  ∃ earlier uptime later batch,
    acts = earlier ++ .file uptime .keepLog :: later
    ∧ .keepLog ∉ deposits later
    ∧ batch = newest 64 (sinceKept (some least) (past ++ earlier))
    ∧ ((empty (some least) .journal).performAll (past ++ acts)).diagnostics.batches.values.getLast?
      = some batch
    ∧ ∃ time, entry time ∈ batch

/-- An error that is said shortly before the journal is set aside is in the newest batch. -/
theorem Filing.leavesBatch {before amid behind : List (Event Site)} {record : Log.Record}
    {kept : Except Fault Unit} (isError : record.level = .error)
    (filing : Filing (· ≠ .keepLog) ((empty (some least) .journal).performAll past)
      (before ++ ⟨.report (.say record), ()⟩ :: (amid ++ ⟨.report .keepLog, kept⟩ :: behind)) acts)
    (few : amid.length < 64) (keptNone : .keepLog ∉ Event.deposits amid)
    (keepsNone : .keepLog ∉ Event.deposits behind)
    : LeavesBatch least past acts (record.entry ·) := by
  obtain ⟨one, acts, rfl, -, filing⟩ := filing.split
  obtain ⟨said, acts, rfl, saying, filing⟩ := filing.uncons
  obtain ⟨uptime, rfl⟩ := saying.of_report fun _ _ => rfl
  obtain ⟨between, acts, rfl, middle, filing⟩ := filing.split
  obtain ⟨keeping, later, rfl, keep, behind⟩ := filing.uncons
  obtain ⟨time, rfl⟩ := keep.of_report fun may => absurd rfl may
  have keepsNoneLater := fun keeps => keepsNone (behind.deposits_subset keeps)
  have keptNoneBetween := fun keeps => keptNone (middle.deposits_subset keeps)
  have takesNone := behind.takeBatches_not_mem
  have isEntry : Log.Threshold.entries (some least) uptime record = [record.entry uptime] := by
    rw [Log.Threshold.entries, isError]
    cases least <;> rfl
  let earlier := one ++ .file uptime (.say record) :: between
  have journals : Journals (some least) _ _ := Journals.empty.performAll (past ++ earlier)
  have isOpen := journals.working
  have room : 0 < ((empty (some least) .journal).performAll
      (past ++ earlier)).diagnostics.batches.capacity := by
    rw [IsOpen.capacity_batches Journals.empty.working]
    exact Nat.succ_pos 15
  refine ⟨earlier, time, later, _, by simp [earlier], keepsNoneLater, rfl, ?_, uptime, ?_⟩
  · have all : past ++ (one ++ ([.file uptime (.say record)]
        ++ (between ++ ([.file time .keepLog] ++ later))))
        = past ++ earlier ++ .file time .keepLog :: later := by
      simp [earlier]
    rw [all, performAll_append, performAll_cons,
      (isOpen.perform _).batches_of_uninvolved keepsNoneLater takesNone, isOpen.batches_keepLog,
      Ring.getLast?_push room, journals.log_eq]
    rfl
  · obtain ⟨more, noted, length⟩ := noted_of_kept_none (some least) keptNoneBetween
      (sinceKept (some least) (past ++ one) ++ [record.entry uptime])
    have all : past ++ earlier = past ++ one ++ .file uptime (.say record) :: between := by
      simp [earlier]
    have bound := middle.length_le
    rw [all, sinceKept_append, List.foldl_cons, Act.noted, isEntry, noted, List.append_assoc]
    -- The error has no more behind it than was asked in between, so it is among the newest.
    exact mem_newest (Nat.lt_of_le_of_lt (Nat.le_trans length bound) few)

-----------------------------------------------------------------------------
-- Failures and stuck tasks

/-- A round that ends in a failure closes with what is asked about it, with no more between the
error and the log than the end of an attempt. By cases over how the round is settled.
-/
theorem Course.failed {events : List (Event Site)} {code : Int32}
    (course : Course plan events (.checked (.failed code)))
    : ∃ before ending noticed kept, events = before ++ failedEvents code ending noticed kept
      ∧ ending.length ≤ 4 ∧ .keepLog ∉ Event.deposits ending := by
  cases course with
  | settled opens looks settles =>
    cases settles with
    | failed _ counted noticed kept =>
      exact ⟨_, [], noticed, kept, (List.append_assoc ..).symm, Nat.zero_le 4, nofun⟩
    | installFailed _ startedAt endedAt counted handedIn noticed kept =>
      refine ⟨_, _, noticed, kept, (List.append_assoc ..).symm, ?_, by simp⟩
      cases handedIn <;> simp [ended, complaint]

/-- Evidence reaches the batch that is set aside for it. Behind any episodes, a round that ends in a
failure and the handling of a stuck task each leave a newest batch of the newest 64 entries since
the journal was set aside before, among which is the error with the code of the failure, or with the
name of the task, its time and its timeout. Whatever else is reported may fail.
-/
theorem evidence_reaches_batch
    (chronicle : Chronicle plan mayFail (.empty (some least) .journal) episodes cycle)
    : (∀ events code next acts,
        Runs ((Cycle.round plan).run cycle) events (.checked (.failed code), next)
        → Filing (· ≠ .keepLog) ((empty (some least) .journal).after episodes) events acts
        → LeavesBatch least (episodes.flatMap Episode.acts) acts fun time =>
          ⟨time, "ERROR", some "orchestrator", "OTA update failed, rv=" ++ toString code.toInt⟩)
      ∧ ∀ registry looking before task handling behind acts,
        Patrol.Passes (escalate plan.policy.escalation) registry looking
          (before ++ (task, handling) :: behind)
        → Filing (· ≠ .keepLog) ((empty (some least) .journal).after episodes)
          (looking ++ (before.map Prod.snd).flatten ++ handling) acts
        → LeavesBatch least (episodes.flatMap Episode.acts) acts fun time =>
          ⟨time, "ERROR", some "watchdog",
            "Task watchdog: '" ++ task.name ++ "' stuck for " ++ toString task.elapsed.toNat
              ++ "ms (timeout " ++ toString task.timeout.toNat ++ "ms)"⟩ := by
  constructor
  · intro events code next acts ran filing
    obtain ⟨course, -⟩ := round_course chronicle.courses.1 ran
    obtain ⟨before, ending, noticed, kept, rfl, short, keptNone⟩ := Course.failed course
    have ordered : failedEvents code ending noticed kept
        = said .error Step.origin ("OTA update failed, rv=" ++ toString code.toInt)
          :: ((ending ++ ⟨.report (.notice (.failure code)), noticed⟩
              :: complaint .warn Step.origin "Failed to record trace event" noticed)
            ++ ⟨.report .keepLog, kept⟩
              :: (complaint .warn Step.origin "Failed to trigger log collection" kept
                ++ [⟨.light .red, ()⟩])) := by
      simp [failedEvents]
    rw [ordered] at filing
    refine Filing.leavesBatch rfl filing ?_ ?_ ?_
    · cases noticed <;> simp [complaint] <;> omega
    · simp [keptNone, Event.deposit?, Report.deposit?]
    · simp [Event.deposit?]
  · intro registry looking before task handling behind acts passes filing
    have ran := passes.handles task handling (by simp)
    obtain ⟨noticed, kept, rest, rfl, restarts⟩ := escalate_runs ran
    have ordered : stuckEvents task noticed kept ++ rest
        = stuckLine task
          :: ((⟨.report (.notice (.stuck task.name task.elapsed)), noticed⟩
              :: complaint .warn Registry.origin "Failed to record trace event" noticed)
            ++ ⟨.report .keepLog, kept⟩
              :: (complaint .warn Registry.origin "Failed to trigger log collection" kept
                ++ rest)) := by
      simp [stuckEvents]
    have silent : Event.deposits rest = [] := by
      rcases restarts with ⟨-, rfl⟩ | ⟨-, marked, rfl⟩
      · rfl
      · simp [resetEvents, Event.deposit?]
    rw [ordered] at filing
    refine Filing.leavesBatch rfl filing ?_ ?_ ?_
    · cases noticed <;> simp [complaint]
    · simp [Event.deposit?, Report.deposit?]
    · simp [silent]

/-- Where nothing but errors is kept, a failed installation and a pump that is found stuck are
told.
-/
theorem evidence_reaches_batch_pump
    : ∃ episodes cycle acts more,
      Chronicle ⟨{}, false⟩ (fun _ => False) (.empty (some .error) .journal) episodes cycle
      ∧ LeavesBatch .error (episodes.flatMap Episode.acts) acts (fun time =>
        ⟨time, "ERROR", some "orchestrator", "OTA update failed, rv=-5"⟩)
      ∧ LeavesBatch .error (episodes.flatMap Episode.acts) more fun time =>
        ⟨time, "ERROR", some "watchdog",
          "Task watchdog: 'pump' stuck for 296ms (timeout 100ms)"⟩ := by
  have hasLog : LogSource.journal ≠ .nothing := nofun
  have chronicle
      : Chronicle ⟨{}, false⟩ (fun _ => False) (.empty (some .error) .journal)
          [.told 7 ⟨.error, none, "overheated"⟩] {} :=
    .next .start (.told 7 _)
  have isOpen := (isOpen_empty (some .error) hasLog).after [.told 7 ⟨.error, none, "overheated"⟩]
  obtain ⟨acts, filing⟩ := Filing.steady (· ≠ .keepLog)
    (.found ⟨"2.0.0", "http://host/image", none⟩) (.failed (-5)) isOpen
    ((Cycle.round ⟨{}, false⟩).run {})
  obtain ⟨more, filed⟩ := Filing.steady (· ≠ .keepLog) .nothing .deferred isOpen
    (Patrol.pass (escalate .restart) ⟨2, 100, [⟨"pump", some 4294967000, none⟩]⟩)
  obtain ⟨failures, stuck⟩ := evidence_reaches_batch chronicle
  have passes := Patrol.Passes.follow (S := Site) (escalate .restart)
    (Site.steady .nothing .deferred) ⟨2, 100, [⟨"pump", some 4294967000, none⟩]⟩
  exact ⟨_, _, acts, more, chronicle, failures _ (-5) _ acts (Runs.follow (S := Site) _ _) filing,
    stuck _ _ [] _ _ [] more passes filed⟩

end Evidence

end Caretaker
