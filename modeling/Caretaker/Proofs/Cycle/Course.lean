import Caretaker.Proofs.Cycle.Steps

/-!
The course of a round. A round that starts without an open attempt opens, looks for a release and
settles what came of it, and each of these parts goes in one of a few ways that fix what is asked,
in which order and with which answers. What is claimed about rounds is read off these ways.
-/

namespace Caretaker.Cycle

open Site Step

-----------------------------------------------------------------------------
-- The ways of a round

/-- How a round opens: it is counted, the network is joined if need be, and the site tells whether
it is online.
-/
inductive Opening (plan : Plan) : Bool → List (Event Site) → Prop where
  | direct (counted : Except Fault Unit) (online : Bool)
      (alone : (plan.policy.joins && plan.hasNetwork) = false)
      : Opening plan online (tallied .rounds counted ++ [⟨.isOnline, online⟩])
  | joining (counted : Except Fault Unit) (before online : Bool) {way : List (Event Site)}
      {joining : Joining} (joins : (plan.policy.joins && plan.hasNetwork) = true)
      (ran : Runs (Joining.attempt before) way joining)
      : Opening plan online
          (tallied .rounds counted ++ ⟨.isOnline, before⟩ :: way ++ [⟨.isOnline, online⟩])

/-- The question for a release and its answer. -/
def looked (finding : Finding) : List (Event Site) :=
  [said .info origin "Checking for OTA Update", ⟨.check, finding⟩]

/-- How a look for a release goes: what is asked, the outcome, and the beginning of the attempt
that is left open. There is no outcome once a release has been installed.
-/
inductive Looking (plan : Plan) : List (Event Site) → Option Outcome → Option Stamp → Prop where
  | nothing : Looking plan (looked .nothing) (some .upToDate) none
  | failed (code : Int32)
      : Looking plan (looked (.failed code) ++ Outcome.codeRemark code)
          (some (.failed (Outcome.failureCode code))) none
  | unwanted (release : Release) (startedAt : Stamp) (refused : plan.policy.downloads = false)
      : Looking plan (looked (.found release) ++ foundEvents release startedAt)
          (some .available) (some startedAt)
  | deferred (release : Release) (startedAt : Stamp) (wanted : plan.policy.downloads = true)
      : Looking plan
          (looked (.found release) ++ foundEvents release startedAt
            ++ [⟨.install release, .deferred⟩])
          (some .available) (some startedAt)
  | installFailed (release : Release) (startedAt : Stamp) (code : Int32)
      (wanted : plan.policy.downloads = true)
      : Looking plan
          (looked (.found release) ++ foundEvents release startedAt
            ++ ⟨.install release, .failed code⟩ :: Outcome.codeRemark code)
          (some (.failed (Outcome.failureCode code))) (some startedAt)
  | installed (release : Release) (startedAt endedAt : Stamp) (handedIn marked : Except Fault Unit)
      (wanted : plan.policy.downloads = true)
      : Looking plan
          (looked (.found release) ++ foundEvents release startedAt
            ++ ⟨.install release, .staged⟩
              :: installedEvents (.between startedAt endedAt Attempt.succeeded) handedIn marked)
          none none

/-- How a check is counted, if checks are. -/
def checkTallied (plan : Plan) (outcome : Outcome) (counted : Except Fault Unit)
    : List (Event Site) :=
  if plan.policy.countsChecks then
    tallied (if outcome.reachedServer then .successes else .failures) counted
  else
    []

/-- What is asked about a failure, around what is asked to end the attempt. -/
def failedEvents (code : Int32) (ending : List (Event Site)) (noticed kept : Except Fault Unit)
    : List (Event Site) :=
  said .error origin ("OTA update failed, rv=" ++ toString code.toInt) :: ending
    ++ ⟨.report (.notice (.failure code)), noticed⟩
      :: complaint .warn origin "Failed to record trace event" noticed
    ++ ⟨.report .keepLog, kept⟩ :: complaint .warn origin "Failed to trigger log collection" kept
    ++ [⟨.light .red, ()⟩]

/-- What is asked to put off a release that has been found. -/
def putOffEvents (record : Attempt.Record) (handedIn : Except Fault Unit) : List (Event Site) :=
  [said .info origin "Update available!",
    said .warn origin "Update found but not installed this tick; closing OTA session"]
    ++ ended record handedIn

/-- How an outcome is settled, with the beginning of the attempt that is open. -/
inductive Settling (plan : Plan) : Outcome → Option Stamp → List (Event Site) → Prop where
  | upToDate (counted : Except Fault Unit)
      : Settling plan .upToDate none
          (checkTallied plan .upToDate counted
            ++ [said .info origin "Up to date!", ⟨.light .green, ()⟩])
  | available (startedAt endedAt : Stamp) (counted handedIn : Except Fault Unit)
      : Settling plan .available (some startedAt)
          (checkTallied plan .available counted
            ++ putOffEvents (.between startedAt endedAt Attempt.deferred) handedIn)
  | failed (code : Int32) (counted noticed kept : Except Fault Unit)
      : Settling plan (.failed code) none
          (checkTallied plan (.failed code) counted ++ failedEvents code [] noticed kept)
  | installFailed (code : Int32) (startedAt endedAt : Stamp)
      (counted handedIn noticed kept : Except Fault Unit)
      : Settling plan (.failed code) (some startedAt)
          (checkTallied plan (.failed code) counted
            ++ failedEvents code (ended (.between startedAt endedAt code) handedIn) noticed kept)

/-- The course of a round: what is asked, and the result. -/
inductive Course (plan : Plan) : List (Event Site) → Result → Prop where
  | offline {opening : List (Event Site)} (opens : Opening plan false opening)
      : Course plan
          (opening ++ [said .debug origin "No connectivity, skipping OTA check", ⟨.light .red, ()⟩])
          .offline
  | settled {opening looking settling : List (Event Site)} {outcome : Outcome}
      {startedAt : Option Stamp} (opens : Opening plan true opening)
      (looks : Looking plan looking (some outcome) startedAt)
      (settles : Settling plan outcome startedAt settling)
      : Course plan (opening ++ looking ++ settling) (.checked outcome)
  | restarting {opening looking : List (Event Site)} (opens : Opening plan true opening)
      (looks : Looking plan looking none none)
      : Course plan (opening ++ looking) .restarting

-----------------------------------------------------------------------------
-- Every round takes one of its ways

variable {plan : Plan} {cycle after : Cycle} {events : List (Event Site)}

/-- The look for a release goes in one of its ways, by cases over what is found and how the
installation goes.
-/
theorem look_runs {outcome : Option Outcome} (closed : cycle.attempt.startedAt = none)
    (h : Runs ((look plan).run cycle) events (outcome, after))
    : Looking plan events outcome after.attempt.startedAt := by
  rw [look, Runs.state_bind_iff] at h
  obtain ⟨line, rest, ⟨⟩, middle, rfl, told, h⟩ := h
  obtain ⟨rfl, rfl⟩ := tell_runs_iff.1 told
  rw [Runs.state_bind_iff] at h
  obtain ⟨question, rest, finding, middle, rfl, checking, h⟩ := h
  obtain ⟨rfl, rfl⟩ := request_runs_iff.1 checking
  cases finding with
  | nothing =>
    obtain ⟨rfl, rfl, rfl⟩ := pure_runs_iff.1 h
    rw [closed]
    exact .nothing
  | failed code =>
    obtain ⟨rfl, rfl, rfl⟩ := failing_runs h
    rw [closed]
    exact .failed code
  | found release =>
    rw [Runs.state_bind_iff] at h
    obtain ⟨discovery, rest, ⟨⟩, middle, rfl, finding, h⟩ := h
    obtain ⟨startedAt, rfl, rfl⟩ := found_runs closed finding
    cases wanted : plan.policy.downloads with
    | false =>
      rw [wanted] at h
      obtain ⟨rfl, rfl, rfl⟩ := pure_runs_iff.1 h
      have way := Looking.unwanted release startedAt wanted
      simpa only [looked, List.append_nil, List.cons_append, List.nil_append] using way
    | true =>
      rw [wanted] at h
      simp only [Bool.not_true, Bool.false_eq_true, if_false] at h
      rw [Runs.state_bind_iff] at h
      obtain ⟨installing, rest, installation, middle, rfl, asking, h⟩ := h
      obtain ⟨rfl, rfl⟩ := request_runs_iff.1 asking
      cases installation with
      | staged =>
        rw [Runs.state_bind_iff] at h
        obtain ⟨finish, rest, ⟨⟩, middle, rfl, installed, h⟩ := h
        obtain ⟨endedAt, handedIn, marked, rfl, rfl⟩ := installed_runs rfl installed
        obtain ⟨rfl, rfl, rfl⟩ := pure_runs_iff.1 h
        have way := Looking.installed release startedAt endedAt handedIn marked wanted
        simpa only [looked, List.append_nil, List.cons_append, List.nil_append, List.append_assoc]
          using way
      | deferred =>
        obtain ⟨rfl, rfl, rfl⟩ := pure_runs_iff.1 h
        have way := Looking.deferred release startedAt wanted
        simpa only [looked, List.append_nil, List.cons_append, List.nil_append, List.append_assoc]
          using way
      | failed code =>
        obtain ⟨rfl, rfl, rfl⟩ := failing_runs h
        have way := Looking.installFailed release startedAt code wanted
        simpa only [looked, List.append_nil, List.cons_append, List.nil_append, List.append_assoc]
          using way

/-- A check is counted if checks are, by cases over the policy. -/
theorem checkTally_runs {outcome : Outcome}
    (h : Runs
      ((if plan.policy.countsChecks = true then
          tally (if outcome.reachedServer = true then .successes else .failures)
        else pure () : Step Unit).run cycle) events ((), after))
    : ∃ counted, events = checkTallied plan outcome counted ∧ after = cycle := by
  cases counts : plan.policy.countsChecks with
  | true =>
    rw [counts, if_pos rfl] at h
    obtain ⟨counted, rfl, rfl⟩ := tally_runs h
    exact ⟨counted, (if_pos counts).symm, rfl⟩
  | false =>
    rw [counts, if_neg Bool.false_ne_true] at h
    obtain ⟨rfl, -, rfl⟩ := pure_runs_iff.1 h
    exact ⟨.ok (), (if_neg (Bool.eq_false_iff.1 counts)).symm, rfl⟩

/-- The evidence of a failure: a notice, the log, and the color. -/
theorem evidence_runs {code : Int32}
    (h : Runs
      ((do
        bestEffort .warn "Failed to record trace event" (notify (.failure code))
        bestEffort .warn "Failed to trigger log collection" keepLog
        display .red : Step Unit).run cycle) events ((), after))
    : ∃ noticed kept,
        events
            = ⟨.report (.notice (.failure code)), noticed⟩
              :: complaint .warn origin "Failed to record trace event" noticed
              ++ ⟨.report .keepLog, kept⟩
              :: complaint .warn origin "Failed to trigger log collection" kept
              ++ [⟨.light .red, ()⟩]
          ∧ after = { cycle with lamp := .red } := by
  rw [Runs.state_bind_iff] at h
  obtain ⟨effort, rest, ⟨⟩, middle, rfl, notifying, h⟩ := h
  obtain ⟨first, noticed, rfl, tried, rfl⟩ := bestEffort_runs notifying
  obtain rfl := Runs.request_iff.1 tried
  rw [Runs.state_bind_iff] at h
  obtain ⟨effort, rest, ⟨⟩, middle, rfl, keeping, h⟩ := h
  obtain ⟨second, kept, rfl, tried, rfl⟩ := bestEffort_runs keeping
  obtain rfl := Runs.request_iff.1 tried
  obtain ⟨rfl, rfl⟩ := display_runs h
  exact ⟨noticed, kept, by simp, rfl⟩

/-- A failure is told, with the end of the attempt if one is open, and leaves evidence. -/
theorem present_failed_runs {code : Int32}
    (h : Runs ((present (.failed code)).run cycle) events ((), after))
    : ∃ ending noticed kept, events = failedEvents code ending noticed kept
      ∧ after.attempt.startedAt = none
      ∧ (cycle.attempt.startedAt = none → ending = [])
      ∧ ∀ startedAt, cycle.attempt.startedAt = some startedAt → ∃ endedAt handedIn,
        ending = ended (.between startedAt endedAt code) handedIn := by
  simp only [present] at h
  rw [Runs.state_bind_iff] at h
  obtain ⟨line, rest, ⟨⟩, middle, rfl, told, h⟩ := h
  obtain ⟨rfl, rfl⟩ := tell_runs_iff.1 told
  rw [get_bind_run] at h
  obtain ⟨ending, rest, between, rfl, closing, h⟩ := when_runs h
  obtain ⟨noticed, kept, rfl, rfl⟩ := evidence_runs h
  refine ⟨ending, noticed, kept, by simp [failedEvents], ?_⟩
  cases isOpen : middle.attempt.startedAt with
  | none =>
    rw [Attempt.Tracker.isOpen, isOpen] at closing
    obtain ⟨rfl, -, rfl⟩ := pure_runs_iff.1 closing
    exact ⟨isOpen, fun _ => rfl, by simp⟩
  | some startedAt =>
    rw [Attempt.Tracker.isOpen, isOpen, Option.isSome_some, if_pos rfl] at closing
    obtain ⟨endedAt, handedIn, rfl, rfl⟩ := endAttempt_runs isOpen closing
    refine ⟨rfl, by simp, ?_⟩
    intro startedAt' same
    cases same
    exact ⟨endedAt, handedIn, rfl⟩

/-- No attempt outlives its round: the last step of a round ends the one that is open. -/
theorem sweep_runs
    (h : Runs
      ((do
        if (← get).attempt.isOpen then
          tell .warn "Update found but not installed this tick; closing OTA session"
          endAttempt Attempt.deferred : Step Unit).run cycle) events ((), after))
    : after.attempt.startedAt = none
      ∧ (cycle.attempt.startedAt = none → events = [])
      ∧ ∀ startedAt, cycle.attempt.startedAt = some startedAt → ∃ endedAt handedIn,
        events
          = said .warn origin "Update found but not installed this tick; closing OTA session"
            :: ended (.between startedAt endedAt Attempt.deferred) handedIn := by
  rw [get_bind_run] at h
  cases isOpen : cycle.attempt.startedAt with
  | none =>
    rw [Attempt.Tracker.isOpen, isOpen] at h
    obtain ⟨rfl, -, rfl⟩ := pure_runs_iff.1 h
    exact ⟨isOpen, fun _ => rfl, by simp⟩
  | some startedAt =>
    rw [Attempt.Tracker.isOpen, isOpen, Option.isSome_some, if_pos rfl, Runs.state_bind_iff] at h
    obtain ⟨line, rest, ⟨⟩, middle, rfl, told, h⟩ := h
    obtain ⟨rfl, rfl⟩ := tell_runs_iff.1 told
    obtain ⟨endedAt, handedIn, rfl, rfl⟩ := endAttempt_runs isOpen h
    refine ⟨rfl, by simp, ?_⟩
    intro startedAt' same
    cases same
    exact ⟨endedAt, handedIn, rfl⟩

/-- The outcomes of a look for a release, with the beginning of the attempt that each of them can
leave open.
-/
inductive Pending : Outcome → Option Stamp → Prop where
  | upToDate : Pending .upToDate none
  | available (startedAt : Stamp) : Pending .available (some startedAt)
  | failed (code : Int32) (startedAt : Option Stamp) : Pending (.failed code) startedAt

theorem Looking.pending {outcome : Outcome} {startedAt : Option Stamp}
    (looks : Looking plan events (some outcome) startedAt)
    : Pending outcome startedAt := by
  cases looks <;> constructor

/-- What a look for a release leaves behind is settled in one of its ways, by cases over the
outcome.
-/
theorem settle_runs {outcome : Outcome} (pending : Pending outcome cycle.attempt.startedAt)
    (h : Runs ((settle plan outcome).run cycle) events ((), after))
    : Settling plan outcome cycle.attempt.startedAt events ∧ after.attempt.startedAt = none := by
  unfold settle at h
  obtain ⟨first, rest, middle, rfl, counting, settling⟩ := when_runs h
  obtain ⟨counted, rfl, rfl⟩ := checkTally_runs counting
  rw [Runs.state_bind_iff] at settling
  obtain ⟨presented, last, ⟨⟩, between, rfl, presenting, sweeping⟩ := settling
  obtain ⟨closed, unswept, swept⟩ := sweep_runs sweeping
  refine ⟨?_, closed⟩
  generalize began : middle.attempt.startedAt = startedAt at pending
  cases pending with
  | upToDate =>
    rw [present, Runs.state_bind_iff] at presenting
    obtain ⟨line, shown, ⟨⟩, telling, rfl, told, displayed⟩ := presenting
    obtain ⟨rfl, rfl⟩ := tell_runs_iff.1 told
    obtain ⟨rfl, rfl⟩ := display_runs displayed
    obtain rfl := unswept began
    exact .upToDate counted
  | available startedAt =>
    obtain ⟨rfl, rfl⟩ := tell_runs_iff.1 presenting
    obtain ⟨endedAt, handedIn, rfl⟩ := swept startedAt began
    exact .available startedAt endedAt counted handedIn
  | failed code =>
    obtain ⟨ending, noticed, kept, rfl, none, unended, ended⟩ := present_failed_runs presenting
    obtain rfl := unswept none
    rw [List.append_nil]
    cases startedAt with
    | none =>
      obtain rfl := unended began
      exact .failed code counted noticed kept
    | some startedAt =>
      obtain ⟨endedAt, handedIn, rfl⟩ := ended startedAt began
      exact .installFailed code startedAt endedAt counted handedIn noticed kept

/-- The site is asked whether it is online, before and after an attempt to join. -/
theorem opening_runs {α : Type} {next : Bool → Step α} {a : α}
    (h : Runs
      ((do
        tally .rounds
        if plan.policy.joins && plan.hasNetwork then
          let _ ← site do Joining.attempt (← Site.isOnline)
        let online ← site Site.isOnline
        next online : Step α).run cycle) events (a, after))
    : ∃ opening rest online, events = opening ++ rest ∧ Opening plan online opening
      ∧ Runs ((next online).run cycle) rest (a, after) := by
  rw [Runs.state_bind_iff] at h
  obtain ⟨first, rest, ⟨⟩, middle, rfl, counting, h⟩ := h
  obtain ⟨counted, rfl, rfl⟩ := tally_runs counting
  cases joins : plan.policy.joins && plan.hasNetwork with
  | false =>
    rw [joins, if_neg Bool.false_ne_true, Runs.state_bind_iff] at h
    obtain ⟨question, rest, online, middle, rfl, asking, h⟩ := h
    obtain ⟨rfl, rfl⟩ := request_runs_iff.1 asking
    exact ⟨_, rest, online, (List.append_assoc ..).symm, .direct counted online joins, h⟩
  | true =>
    rw [joins, if_pos rfl, Runs.state_bind_iff] at h
    obtain ⟨way, rest, joining, middle, rfl, attempting, h⟩ := h
    obtain ⟨attempted, rfl⟩ := site_runs_iff.1 attempting
    obtain ⟨question, way, before, rfl, asked, ran⟩ := Runs.bind_iff.1 attempted
    obtain rfl := Runs.request_iff.1 asked
    rw [Runs.state_bind_iff] at h
    obtain ⟨question, rest, online, middle, rfl, asking, h⟩ := h
    obtain ⟨rfl, rfl⟩ := request_runs_iff.1 asking
    exact ⟨_, rest, online, by simp, .joining counted before online joins ran, h⟩

/-- A round without an open attempt takes one of its courses and leaves no attempt open. -/
theorem round_course {result : Result} (closed : cycle.attempt.startedAt = none)
    (h : Runs ((round plan).run cycle) events (result, after))
    : Course plan events result ∧ after.attempt.startedAt = none := by
  obtain ⟨opening, rest, online, rfl, opens, way⟩ := opening_runs h
  cases online with
  | false =>
    rw [Bool.not_false, if_pos rfl, Runs.state_bind_iff] at way
    obtain ⟨line, rest, ⟨⟩, middle, rfl, told, way⟩ := way
    obtain ⟨rfl, rfl⟩ := tell_runs_iff.1 told
    rw [Runs.state_bind_iff] at way
    obtain ⟨shown, rest, ⟨⟩, middle, rfl, displayed, way⟩ := way
    obtain ⟨rfl, rfl⟩ := display_runs displayed
    obtain ⟨rfl, rfl, rfl⟩ := pure_runs_iff.1 way
    exact ⟨.offline opens, closed⟩
  | true =>
    rw [Bool.not_true, if_neg Bool.false_ne_true, Runs.state_bind_iff] at way
    obtain ⟨looking, rest, outcome, middle, rfl, look, way⟩ := way
    have looks := look_runs closed look
    cases outcome with
    | none =>
      obtain ⟨rfl, rfl, rfl⟩ := pure_runs_iff.1 way
      rw [List.append_nil]
      generalize after.attempt.startedAt = startedAt at looks
      cases looks with
      | installed release startedAt endedAt handedIn marked wanted =>
        exact ⟨.restarting opens (.installed release startedAt endedAt handedIn marked wanted), rfl⟩
    | some outcome =>
      rw [Runs.state_bind_iff] at way
      obtain ⟨settling, rest, ⟨⟩, last, rfl, settled, way⟩ := way
      obtain ⟨settles, ended⟩ := settle_runs looks.pending settled
      obtain ⟨rfl, rfl, rfl⟩ := pure_runs_iff.1 way
      rw [List.append_nil, ← List.append_assoc]
      exact ⟨.settled opens looks settles, ended⟩

end Caretaker.Cycle
