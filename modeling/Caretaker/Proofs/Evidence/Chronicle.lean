import Caretaker.Proofs.Evidence.Deposits

/-!
Chronicles of a store that rounds of the cycle and passes of the patrol report to, in any order, and
whose batches are taken now and then. What is exported tells exactly what happened, in the bounds of
what is kept.
-/

namespace Caretaker.Evidence

open Caretaker.Cycle Liveness View

-----------------------------------------------------------------------------
-- Episodes

/-- Something that happens around a store, with what it does to the evidence. -/
inductive Episode where
  /-- A round of the cycle. -/
  | round (events : List (Event Site)) (acts : List Act) (result : Result)
  /-- A pass of the patrol over the tasks that it finds stuck, each with what is asked about it. -/
  | pass (looking : List (Event Site)) (handled : List (Stuck × List (Event Site)))
      (acts : List Act)
  /-- Somebody else says something. -/
  | told (uptime : Nat) (record : Log.Record)
  /-- The batches are taken for upload. -/
  | taken

namespace Episode

/-- What is done to the evidence. -/
def acts : Episode → List Act
  | .round _ acts _ | .pass _ _ acts => acts
  | .told uptime record => [.file uptime (.say record)]
  | .taken => [.takeBatches]

def result? : Episode → Option Result
  | .round _ _ result => some result
  | _ => none

/-- The records of the attempts that are handed in. -/
def records : Episode → List Attempt.Record
  | .round events _ _ => View.records.of events
  | _ => []

/-- The notices of a failed round and of the tasks that are found stuck, in their order. -/
def notices : Episode → List Notice
  | .round _ _ (.checked (.failed code)) =>
    [⟨"ota_install_failure", "error code=" ++ toString code.toInt⟩]
  | .pass _ handled _ => handled.map fun (task, _) =>
    ⟨"task_watchdog", "task=" ++ task.name ++ " elapsed=" ++ toString task.elapsed.toNat ++ "ms"⟩
  | _ => []

def isTaken : Episode → Bool
  | .taken => true
  | _ => false

end Episode

/-- The evidence after some episodes. -/
def after (e : Evidence) (episodes : List Episode) : Evidence :=
  e.performAll (episodes.flatMap Episode.acts)

/-- What can happen next to evidence and to the cycle. -/
inductive Happens (plan : Plan) (mayFail : Report → Prop) (e : Evidence) (cycle : Cycle)
    : Episode → Cycle → Prop where
  | round {events : List (Event Site)} {acts : List Act} {result : Result} {next : Cycle}
      (ran : Runs ((Cycle.round plan).run cycle) events (result, next))
      (filing : Filing mayFail e events acts)
      : Happens plan mayFail e cycle (.round events acts result) next
  | pass {registry : Registry} {looking : List (Event Site)}
      {handled : List (Stuck × List (Event Site))} {acts : List Act}
      (passes : Patrol.Passes (escalate plan.policy.escalation) registry looking handled)
      (filing : Filing mayFail e (looking ++ (handled.map Prod.snd).flatten) acts)
      : Happens plan mayFail e cycle (.pass looking handled acts) cycle
  | told (uptime : Nat) (record : Log.Record)
      : Happens plan mayFail e cycle (.told uptime record) cycle
  | taken : Happens plan mayFail e cycle .taken cycle

/-- All that has happened to evidence from the start of a cycle on. -/
inductive Chronicle (plan : Plan) (mayFail : Report → Prop) (first : Evidence)
    : List Episode → Cycle → Prop where
  | start : Chronicle plan mayFail first [] {}
  | next {episodes : List Episode} {episode : Episode} {cycle next : Cycle}
      (earlier : Chronicle plan mayFail first episodes cycle)
      (happens : Happens plan mayFail (first.after episodes) cycle episode next)
      : Chronicle plan mayFail first (episodes ++ [episode]) next

def results (episodes : List Episode) : List Result :=
  episodes.filterMap Episode.result?

/-- The episodes since batches were taken last. -/
def sinceTaken (episodes : List Episode) : List Episode :=
  (episodes.reverse.takeWhile fun episode => !episode.isTaken).reverse

variable {plan : Plan} {mayFail : Report → Prop} {first : Evidence} {episodes : List Episode}
  {episode : Episode} {cycle next : Cycle}

theorem after_concat (e : Evidence) (episodes : List Episode) (episode : Episode)
    : e.after (episodes ++ [episode]) = (e.after episodes).performAll episode.acts := by
  rw [after, List.flatMap_append, performAll_append, List.flatMap_singleton, after]

theorem IsOpen.after (isOpen : first.IsOpen) (episodes : List Episode)
    : (first.after episodes).IsOpen :=
  (isOpen.reflects_all _).2

theorem sinceTaken_concat (episodes : List Episode) (episode : Episode)
    : sinceTaken (episodes ++ [episode])
      = if episode.isTaken then [] else sinceTaken episodes ++ [episode] := by
  rw [sinceTaken, List.reverse_append, List.reverse_singleton, List.singleton_append,
    List.takeWhile_cons]
  cases episode.isTaken with
  | true => rfl
  | false => exact List.reverse_cons

-----------------------------------------------------------------------------
-- What episodes report

/-- The reports of an episode. -/
def Episode.deposits (plan : Plan) : Episode → List Report
  | .round events _ result =>
    .count .rounds :: result.tallies plan ++ (View.records.of events).map .attempt
      ++ result.evidence
  | .pass _ handled _ => (handled.map Prod.fst).flatMap Stuck.deposits
  | .told .. | .taken => []

/-- No attempt is left open, and a round takes a course. By cases over what happens. -/
theorem Happens.course {e : Evidence} (closed : cycle.attempt.startedAt = none)
    (happens : Happens plan mayFail e cycle episode next)
    : next.attempt.startedAt = none
      ∧ ∀ events acts result, episode = .round events acts result → Course plan events result := by
  cases happens with
  | round ran =>
    obtain ⟨course, stillClosed⟩ := round_course closed ran
    refine ⟨stillClosed, ?_⟩
    intro events acts result same
    cases same
    exact course
  | pass | told | taken => exact ⟨closed, nofun⟩

/-- No attempt is open between rounds, and each of them takes a course. By induction over the
chronicle.
-/
theorem Chronicle.courses (chronicle : Chronicle plan mayFail first episodes cycle)
    : cycle.attempt.startedAt = none
      ∧ ∀ events acts result, .round events acts result ∈ episodes → Course plan events result := by
  induction chronicle with
  | start => exact ⟨rfl, nofun⟩
  | next _ happens ih =>
    obtain ⟨closed, courses⟩ := ih
    obtain ⟨stillClosed, course⟩ := happens.course closed
    refine ⟨stillClosed, ?_⟩
    intro events acts result member
    rcases List.mem_append.1 member with member | member
    · exact courses events acts result member
    · exact course events acts result (List.mem_singleton.1 member).symm

/-- If nothing may fail, an episode brings to the store what it reports. By cases over the episode.
-/
theorem Happens.deposits_eq {e : Evidence} (closed : cycle.attempt.startedAt = none)
    (happens : Happens plan (fun _ => False) e cycle episode next)
    : deposits episode.acts = episode.deposits plan := by
  cases happens with
  | round ran filing =>
    rw [Episode.acts, filing.deposits_eq, (round_course closed ran).1.deposits]
    rfl
  | pass passes filing =>
    rw [Episode.acts, filing.deposits_eq, passes.deposits]
    rfl
  | told | taken => rfl

theorem Happens.takeBatches_not_mem {e : Evidence}
    (happens : Happens plan mayFail e cycle episode next) (keeps : episode.isTaken = false)
    : Act.takeBatches ∉ episode.acts := by
  cases happens with
  | round ran filing => exact filing.takeBatches_not_mem
  | pass passes filing => exact filing.takeBatches_not_mem
  | told => exact fun member => nomatch List.mem_singleton.1 member
  | taken => cases keeps

/-- All episodes together bring to the store what they report, by induction over the chronicle. -/
theorem Chronicle.deposits_eq (chronicle : Chronicle plan (fun _ => False) first episodes cycle)
    : deposits (episodes.flatMap Episode.acts) = episodes.flatMap (Episode.deposits plan) := by
  induction chronicle with
  | start => rfl
  | next earlier happens ih =>
    rw [List.flatMap_append, List.flatMap_append, deposits_append, ih, List.flatMap_singleton,
      List.flatMap_singleton, happens.deposits_eq earlier.courses.1]

-----------------------------------------------------------------------------
-- What is exported

/-- Whether a counter counts rounds of a result. -/
def counted (plan : Plan) : Counter → Result → Bool
  | .rounds, _ => true
  | .successes, .checked .upToDate | .successes, .checked .available => plan.policy.countsChecks
  | .failures, .checked (.failed _) => plan.policy.countsChecks
  | _, _ => false

theorem count_tallies (plan : Plan) (result : Result) (counter : Counter)
    : (.count .rounds :: result.tallies plan).count (.count counter)
      = [result].countP (counted plan counter) := by
  rcases result with _ | (_ | _ | code) | _ <;> cases counter <;>
    cases counts : plan.policy.countsChecks <;>
    simp [Result.tallies, Outcome.reachedServer, counted, counts]

theorem mem_tallies {plan : Plan} {result : Result} {report : Report}
    (member : report ∈ Report.count .rounds :: result.tallies plan)
    : ∃ counter, report = .count counter := by
  rcases List.mem_cons.1 member with rfl | member
  · exact ⟨_, rfl⟩
  · cases result with
    | checked outcome =>
      rw [Result.tallies] at member
      split at member
      · exact ⟨_, List.mem_singleton.1 member⟩
      · cases member
    | offline | restarting => cases member

theorem filterMap_tallies {α : Type} (plan : Plan) (result : Result) (f : Report → Option α)
    (blind : ∀ counter, f (.count counter) = none)
    : (Report.count .rounds :: result.tallies plan).filterMap f = [] := by
  refine List.filterMap_eq_nil_iff.2 fun report member => ?_
  obtain ⟨counter, rfl⟩ := mem_tallies member
  exact blind counter

namespace Episode

theorem count_deposits (plan : Plan) (episode : Episode) (counter : Counter)
    : (episode.deposits plan).count (.count counter)
      = episode.result?.toList.countP (counted plan counter) := by
  cases episode with
  | round events acts result =>
    have noAttempt (records : List Attempt.Record)
        : (records.map Report.attempt).count (.count counter) = 0 := by
      simp [List.count_eq_zero]
    have noEvidence : result.evidence.count (.count counter) = 0 := by
      unfold Result.evidence
      split <;> simp
    rw [deposits, List.count_append, List.count_append, noAttempt, noEvidence, count_tallies]
    rfl
  | pass looking handled acts =>
    have uncounted : Report.count counter ∉ (handled.map Prod.fst).flatMap Stuck.deposits := by
      simp [Stuck.deposits]
    exact List.count_eq_zero.2 uncounted
  | told | taken => rfl

theorem attempts_deposits (plan : Plan) (episode : Episode)
    : (episode.deposits plan).filterMap Report.attempt? = episode.records := by
  cases episode with
  | round events acts result =>
    have counts := filterMap_tallies plan result Report.attempt? fun _ => rfl
    have handedIn : ((View.records.of events).map Report.attempt).filterMap Report.attempt?
        = View.records.of events := by
      rw [List.filterMap_map]
      exact List.filterMap_some
    have evidence : result.evidence.filterMap Report.attempt? = [] := by
      unfold Result.evidence
      split <;> rfl
    rw [deposits, List.filterMap_append, List.filterMap_append, counts, handedIn, evidence,
      List.append_nil]
    rfl
  | pass looking handled acts =>
    rw [deposits, List.filterMap_flatMap]
    exact List.flatMap_eq_nil_iff.2 fun task _ => rfl
  | told | taken => rfl

theorem notices_deposits (plan : Plan) (episode : Episode)
    : (episode.deposits plan).filterMap Report.notice? = episode.notices := by
  cases episode with
  | round events acts result =>
    have counts := filterMap_tallies plan result Report.notice? fun _ => rfl
    have handedIn
        : ((View.records.of events).map Report.attempt).filterMap Report.notice? = [] := by
      simp [Report.notice?]
    rw [deposits, List.filterMap_append, List.filterMap_append, counts, handedIn]
    rcases result with _ | (_ | _ | code) | _ <;> rfl
  | pass looking handled acts =>
    rw [deposits, List.filterMap_flatMap, List.flatMap_map, notices, List.map_eq_flatMap]
    rfl
  | told | taken => rfl

/-- The log is set aside once for each notice of an episode. -/
theorem count_keepLog_deposits (plan : Plan) (episode : Episode)
    : (episode.deposits plan).count .keepLog = episode.notices.length := by
  cases episode with
  | round events acts result =>
    have counts : (.count .rounds :: result.tallies plan).count .keepLog = 0 := by
      refine List.count_eq_zero.2 fun member => ?_
      obtain ⟨counter, same⟩ := mem_tallies member
      cases same
    have handedIn : ((View.records.of events).map Report.attempt).count .keepLog = 0 := by
      simp [List.count_eq_zero]
    rw [deposits, List.count_append, List.count_append, counts, handedIn]
    rcases result with _ | (_ | _ | code) | _ <;> rfl
  | pass looking handled acts =>
    rw [deposits, notices, List.length_map]
    induction handled with
    | nil => rfl
    | cons task rest ih =>
      rw [List.map_cons, List.flatMap_cons, List.count_append, ih, List.length_cons, Nat.add_comm]
      rfl
  | told | taken => rfl

end Episode

-----------------------------------------------------------------------------
-- All episodes together

def attempts (episodes : List Episode) : List Attempt.Record :=
  episodes.flatMap Episode.records

/-- The notices of failures and of stuck tasks. -/
def notices (episodes : List Episode) : List Notice :=
  episodes.flatMap Episode.notices

/-- A counter counts the rounds of all episodes, by induction over the episodes. -/
theorem count_flatMap_deposits (plan : Plan) (episodes : List Episode) (counter : Counter)
    : (episodes.flatMap (Episode.deposits plan)).count (.count counter)
      = (results episodes).countP (counted plan counter) := by
  induction episodes with
  | nil => rfl
  | cons episode rest ih =>
    have head : results (episode :: rest) = episode.result?.toList ++ results rest := by
      rw [results, List.filterMap_cons]
      cases episode.result? <;> rfl
    rw [List.flatMap_cons, List.count_append, episode.count_deposits, ih, head, List.countP_append]

theorem attempts_flatMap_deposits (plan : Plan) (episodes : List Episode)
    : (episodes.flatMap (Episode.deposits plan)).filterMap Report.attempt? = attempts episodes := by
  rw [List.filterMap_flatMap, attempts]
  exact congrArg (List.flatMap · episodes) (funext fun episode => episode.attempts_deposits plan)

theorem notices_flatMap_deposits (plan : Plan) (episodes : List Episode)
    : (episodes.flatMap (Episode.deposits plan)).filterMap Report.notice? = notices episodes := by
  rw [List.filterMap_flatMap, notices]
  exact congrArg (List.flatMap · episodes) (funext fun episode => episode.notices_deposits plan)

/-- One batch is pending for each notice since batches were taken last, as far as there is room. By
induction over the chronicle.
-/
theorem Chronicle.size_batches (chronicle : Chronicle plan (fun _ => False) first episodes cycle)
    (isOpen : first.IsOpen) (fresh : first.diagnostics = .empty)
    : (first.after episodes).diagnostics.batches.size
      = min Diagnostics.historyLimit (notices (sinceTaken episodes)).length := by
  induction chronicle with
  | start => exact congrArg (·.batches.size) fresh
  | @next episodes episode cycle next earlier happens ih =>
    have room : (first.after episodes).diagnostics.batches.capacity = Diagnostics.historyLimit :=
      (isOpen.capacity_batches _).trans (congrArg (·.batches.capacity) fresh)
    rw [after_concat, sinceTaken_concat]
    cases taken : episode.isTaken with
    | true =>
      cases episode with
      | taken => rfl
      | round | pass | told => cases taken
    | false =>
      rw [(isOpen.after episodes).size_batches (happens.takeBatches_not_mem taken), room, ih,
        happens.deposits_eq earlier.courses.1, episode.count_keepLog_deposits,
        if_neg Bool.false_ne_true, notices, notices, List.flatMap_append, List.length_append,
        List.flatMap_singleton]
      omega

/-- A number as it is exported, which stops at the largest number of 32 bits. -/
def bounded (n : Nat) : Json.Value :=
  .whole (min n (UInt32.size - 1) : Nat)

/-- What is exported after some episodes. -/
def exported (plan : Plan) (episodes : List Episode) : Json.Value :=
  .record [
    ("counters", .list [
      .list [
        .text "sync_successful",
        bounded ((results episodes).countP (counted plan .successes))],
      .list [.text "sync_failure", bounded ((results episodes).countP (counted plan .failures))],
      .list [.text "ota_task_num_schedules", bounded (results episodes).length]]),
    ("sessions", .list ((newest 16 (attempts episodes)).map fun record =>
      .record [
        ("started_at_ms", .whole record.startedAt.toNat),
        ("ended_at_ms", .whole record.endedAt.toNat),
        ("duration_ms", .whole record.duration.toNat),
        ("result_code", .whole record.code.toInt)])),
    ("trace_events", .list ((newest 16 (notices episodes)).map fun notice =>
      .record [("reason", .text notice.reason), ("message", .text notice.message)])),
    ("pending_log_batches", .whole (min 16 (notices (sinceTaken episodes)).length : Nat))]

/-- What is exported is exactly what happened, in the bounds of what is kept: the rounds and how
their checks ended, the attempts, the failures and stuck tasks in the order in which they came, and
a batch for each of these since batches were taken last. Each round accounts for the release that it
found by one record, and hands in none if it found none. By what the episodes report.
-/
theorem export_follows_chronicle {threshold : Log.Threshold} {source : LogSource}
    (hasLog : source ≠ .nothing)
    (chronicle : Chronicle plan (fun _ => False) (.empty threshold source) episodes cycle)
    : ((Evidence.empty threshold source).after episodes).diagnostics.toValue
        = exported plan episodes
      ∧ ∀ events acts result, .round events acts result ∈ episodes → Balanced plan events := by
  have isOpen : (Evidence.empty threshold source).IsOpen := isOpen_empty threshold hasLog
  obtain ⟨reflects, -⟩ := isOpen.reflects_all (episodes.flatMap Episode.acts)
  have pending := chronicle.size_batches isOpen rfl
  rw [chronicle.deposits_eq] at reflects
  have counted (counter : Counter)
      : (((Evidence.empty threshold source).after episodes).diagnostics.counts.get counter).toNat
        = min ((results episodes).countP (counted plan counter)) (UInt32.size - 1) := by
    have zero : ((Evidence.empty threshold source).diagnostics.counts.get counter).toNat = 0 := by
      cases counter <;> rfl
    rw [after, reflects.counts, zero, Nat.zero_add, count_flatMap_deposits]
  have rounds
      : (results episodes).countP (Evidence.counted plan .rounds) = (results episodes).length :=
    List.countP_eq_length.2 fun _ _ => rfl
  have attempted : ((Evidence.empty threshold source).after episodes).diagnostics.attempts.values
      = newest 16 (attempts episodes) := by
    rw [after, reflects.attempts, Ring.values_pushAll, attempts_flatMap_deposits]
    rfl
  have noticed : ((Evidence.empty threshold source).after episodes).diagnostics.notices.values
      = newest 16 (notices episodes) := by
    rw [after, reflects.notices, Ring.values_pushAll, notices_flatMap_deposits]
    rfl
  refine ⟨?_, fun events acts result member =>
    (chronicle.courses.2 events acts result member).balanced⟩
  rw [Diagnostics.toValue, attempted, noticed, pending]
  simp only [Counter.all, List.map_cons, List.map_nil, Diagnostics.countValue, counted, rounds]
  rfl

/-- An open store takes all that is reported at a site that never changes. -/
theorem Filing.steady {α : Type} {e : Evidence} (mayFail : Report → Prop) (finding : Finding)
    (installation : Installation) (isOpen : e.IsOpen) (p : Program Site α)
    : ∃ acts, Filing mayFail e (p.follow (Site.steady finding installation)).1 acts := by
  refine Filing.of_taken isOpen fun event member r answer same => ?_
  have answered := Program.answer_of_mem_follow (Site.steady finding installation) p event member
  subst same
  refine Eq.trans answered ?_
  cases r <;> rfl

/-- A failed installation and a pump that is found stuck behind it leave an attempt, two notices and
two batches.
-/
theorem export_follows_chronicle_pump
    : ∃ episodes cycle,
      Chronicle ⟨{}, false⟩ (fun _ => False) (.empty (some .info) .journal) episodes cycle
      ∧ ((Evidence.empty (some .info) .journal).after episodes).diagnostics.toValue
        = .record [
            ("counters", .list [
              .list [.text "sync_successful", .whole 0],
              .list [.text "sync_failure", .whole 1],
              .list [.text "ota_task_num_schedules", .whole 1]]),
            ("sessions", .list [
              .record [
                ("started_at_ms", .whole 0),
                ("ended_at_ms", .whole 0),
                ("duration_ms", .whole 0),
                ("result_code", .whole (-5))]]),
            ("trace_events", .list [
              .record [
                ("reason", .text "ota_install_failure"),
                ("message", .text "error code=-5")],
              .record [
                ("reason", .text "task_watchdog"),
                ("message", .text "task=pump elapsed=296ms")]]),
            ("pending_log_batches", .whole 2)] := by
  have hasLog : LogSource.journal ≠ .nothing := nofun
  obtain ⟨acts, filing⟩ := Filing.steady (fun _ => False)
    (.found ⟨"2.0.0", "http://host/image", none⟩) (.failed (-5))
    (isOpen_empty (some .info) hasLog) ((Cycle.round ⟨{}, false⟩).run {})
  have first : Chronicle ⟨{}, false⟩ (fun _ => False) (.empty (some .info) .journal) _ _ :=
    .next .start (.round (Runs.follow (S := Site) _ _) filing)
  have passes := Patrol.Passes.follow (S := Site) (escalate .restart)
    (Site.steady .nothing .deferred) ⟨2, 100, [⟨"pump", some 4294967000, none⟩]⟩
  obtain ⟨more, filed⟩ := Filing.steady (fun _ => False) .nothing .deferred
    ((isOpen_empty _ hasLog).after _)
    (Patrol.pass (escalate .restart) ⟨2, 100, [⟨"pump", some 4294967000, none⟩]⟩)
  have second := first.next (.pass passes filed)
  exact ⟨_, _, second, (export_follows_chronicle hasLog second).1⟩

end Caretaker.Evidence
