import Caretaker.Proofs.Cycle.Rounds

/-!
Attempts are accounted for: in every round the start and the end of an attempt match, and a record
is handed in for each release that was found and for nothing else.
-/

namespace Caretaker

open Site Caretaker.Cycle Step View

-----------------------------------------------------------------------------
-- No start and no end is refused

namespace Attempt

/-- The event of a start or of an end that was refused. Each of them leaves one line. -/
def IsRefusal (e : Event Site) : Prop :=
  ∃ (tracker : Tracker) (time : Stamp) (events : List (Event Site)) (misuse : Misuse),
    e ∈ events
    ∧ (Runs (begin tracker time) events (.error misuse)
      ∨ ∃ code, Runs (conclude tracker code time) events (.error misuse))

/-- A refusal is known by its line, by cases over what was refused. -/
theorem isRefusal_iff {e : Event Site}
    : IsRefusal e ↔ e = startRefusedLine ∨ ∃ code, e = endRefusedLine code := by
  constructor
  · intro h
    obtain ⟨tracker, time, events, misuse, member, ran | ⟨code, ran⟩⟩ := h
    · rcases begin_runs_iff.1 ran with ⟨-, -, answer⟩ | ⟨-, rfl, -⟩
      · cases answer
      · exact .inl (List.mem_singleton.1 member)
    · rcases conclude_runs_iff.1 ran with ⟨startedAt, -, -, answer⟩ | ⟨-, rfl, -⟩
      · cases answer
      · exact .inr ⟨code, List.mem_singleton.1 member⟩
  · intro h
    rcases h with rfl | ⟨code, rfl⟩
    · exact ⟨⟨some 0⟩, 0, _, _, List.mem_singleton_self _,
        .inl (begin_runs_iff.2 (.inr ⟨rfl, rfl, rfl⟩))⟩
    · exact ⟨⟨none⟩, 0, _, _, List.mem_singleton_self _,
        .inr ⟨code, conclude_runs_iff.2 (.inr ⟨rfl, rfl, rfl⟩)⟩⟩

/-- Nothing among some events is said about attempts at the level of errors. -/
def Quiet (events : List (Event Site)) : Prop :=
  ∀ e ∈ events, ∀ message, e ≠ said .error origin message

theorem Quiet.not_isRefusal {events : List (Event Site)} (quiet : Quiet events)
    : ∀ e ∈ events, ¬ IsRefusal e := by
  intro e member refusal
  rcases isRefusal_iff.1 refusal with same | ⟨code, same⟩
  · exact quiet e member _ same
  · exact quiet e member _ same

@[simp]
theorem quiet_nil : Quiet [] := by
  simp [Quiet]

@[simp]
theorem quiet_append {first second : List (Event Site)}
    : Quiet (first ++ second) ↔ Quiet first ∧ Quiet second := by
  simp only [Quiet, List.forall_mem_append]

@[simp]
theorem quiet_cons {e : Event Site} {events : List (Event Site)}
    : Quiet (e :: events) ↔ (∀ message, e ≠ said .error origin message) ∧ Quiet events := by
  simp only [Quiet, List.forall_mem_cons]

@[simp]
theorem stepOrigin_ne_origin : Step.origin ≠ origin := by
  decide

@[simp]
theorem quiet_complaint {level : Log.Level} {failure : String} {answer : Except Fault Unit}
    : Quiet (complaint level Step.origin failure answer) := by
  cases answer <;> simp [complaint, said]

@[simp]
theorem quiet_tallied {counter : Counter} {answer : Except Fault Unit}
    : Quiet (tallied counter answer) := by
  simp [tallied, said]

@[simp]
theorem quiet_checkTallied {plan : Plan} {outcome : Outcome} {answer : Except Fault Unit}
    : Quiet (checkTallied plan outcome answer) := by
  unfold checkTallied
  split <;> simp

@[simp]
theorem quiet_codeRemark {code : Int32} : Quiet (Outcome.codeRemark code) := by
  unfold Outcome.codeRemark
  split <;> simp [said]

@[simp]
theorem quiet_ended {record : Record} {handedIn : Except Fault Unit}
    : Quiet (ended record handedIn) := by
  simp [ended, endedLine, said]

theorem quiet_opening {plan : Plan} {online : Bool} {events : List (Event Site)}
    (opens : Opening plan online events)
    : Quiet events := by
  cases opens with
  | direct => simp [said]
  | @joining counted before online way _ _ ran =>
    have quiet : Quiet way := by
      intro e member message same
      have joining := Program.Only.of_runs ran (Joining.attempt_only before) e member
      subst same
      simp [said, IsJoining, Joining.origin, origin] at joining
    simp [quiet, said]

theorem quiet_looking {plan : Plan} {outcome : Option Outcome} {startedAt : Option Stamp}
    {events : List (Event Site)} (looks : Looking plan events outcome startedAt)
    : Quiet events := by
  cases looks <;>
    simp [looked, foundEvents, begun, installedEvents, partingEvents, begunLine, said]

theorem quiet_settling {plan : Plan} {outcome : Outcome} {startedAt : Option Stamp}
    {events : List (Event Site)} (settles : Settling plan outcome startedAt events)
    : Quiet events := by
  cases settles <;> simp [failedEvents, putOffEvents, said]

/-- In no course of a round is a start or an end of an attempt refused, part by part. -/
theorem quiet_course {plan : Plan} {result : Result} {events : List (Event Site)}
    (course : Course plan events result)
    : Quiet events := by
  cases course with
  | offline opens => simp [quiet_opening opens, said]
  | settled opens looks settles =>
    simp [quiet_opening opens, quiet_looking looks, quiet_settling settles]
  | restarting opens looks => simp [quiet_opening opens, quiet_looking looks]

end Attempt

-----------------------------------------------------------------------------
-- One record for each release that was found

namespace Cycle

/-- The code under which the attempt of an installation is recorded. -/
def attemptCode : Installation → Int32
  | .staged => 0
  | .deferred => 1
  | .failed code => if code < 0 then code else -1

/-- The attempt of a round in which a release was found: between the two readings of the clock, and
with the code of its installation if there was one.
-/
def Accounted (plan : Plan) (release : Release) (events : List (Event Site)) : Prop :=
  ∃ (startedAt endedAt : Stamp) (duration : UInt32) (code : Int32),
    readings.of events = [startedAt, endedAt]
    ∧ records.of events = [⟨startedAt, endedAt, duration, code⟩]
    ∧ (duration.toNat : Int) = ((endedAt.toNat : Int) - startedAt.toNat) % UInt32.size
    ∧ ((plan.policy.downloads = false ∧ installations.of events = [] ∧ code = 1)
      ∨ (plan.policy.downloads = true
        ∧ ∃ installation, installations.of events = [(release, installation)]
          ∧ code = attemptCode installation))

/-- A round hands in the record of the release that was found, and none if none was found. -/
def Balanced (plan : Plan) (events : List (Event Site)) : Prop :=
  (records.of events = [] ∧ ∀ release, .found release ∉ findings.of events)
    ∨ ∃ release, findings.of events = [.found release] ∧ Accounted plan release events

variable {plan : Plan} {events : List (Event Site)}

/-- A round accounts for its attempt by a record between the two readings of the clock. -/
theorem balanced_between (release : Release) (startedAt endedAt : Stamp) (code : Int32)
    (found : findings.of events = [.found release])
    (read : readings.of events = [startedAt, endedAt])
    (recorded : records.of events = [.between startedAt endedAt code])
    (installed : (plan.policy.downloads = false ∧ installations.of events = [] ∧ code = 1)
      ∨ (plan.policy.downloads = true
        ∧ ∃ installation, installations.of events = [(release, installation)]
          ∧ code = attemptCode installation))
    : Balanced plan events := by
  have duration := Stamp.toNat_since_emod startedAt endedAt
  exact .inr ⟨release, found, startedAt, endedAt, _, code, read, recorded, duration, installed⟩

/-- Nothing in the opening of a round matters to its attempt. -/
theorem Opening.balanced_iff {online : Bool} {opening : List (Event Site)}
    (opens : Opening plan online opening)
    : Balanced plan (opening ++ events) ↔ Balanced plan events := by
  simp only [Balanced, Accounted, readings.of_behind opens fun _ => rfl,
    records.of_behind opens fun _ => rfl, findings.of_behind opens fun _ => rfl,
    installations.of_behind opens fun _ => rfl]

/-- A look that is settled is balanced, by cases over the look and how it is settled. -/
theorem Looking.balanced {looking settling : List (Event Site)} {outcome : Outcome}
    {startedAt : Option Stamp} (looks : Looking plan looking (some outcome) startedAt)
    (settles : Settling plan outcome startedAt settling)
    : Balanced plan (looking ++ settling) := by
  cases looks with
  | nothing =>
    cases settles with
    | upToDate => exact .inl ⟨by simp [records, said], by simp [findings, said]⟩
  | failed code =>
    cases settles with
    | failed => exact .inl ⟨by simp [records], by simp [findings]⟩
  | unwanted release startedAt refused =>
    cases settles with
    | available _ endedAt =>
      refine balanced_between release startedAt endedAt 1 ?_ ?_ ?_
        (.inl ⟨refused, ?_, rfl⟩)
      · simp [findings]
      · simp [readings, Attempt.Record.between]
      · simp [records, Attempt.deferred]
      · simp [installations]
  | deferred release startedAt wanted =>
    cases settles with
    | available _ endedAt =>
      refine balanced_between release startedAt endedAt 1 ?_ ?_ ?_
        (.inr ⟨wanted, .deferred, ?_, rfl⟩)
      · simp [findings]
      · simp [readings, Attempt.Record.between]
      · simp [records, Attempt.deferred]
      · simp [installations]
  | installFailed release startedAt code wanted =>
    cases settles with
    | installFailed _ _ endedAt =>
      refine balanced_between release startedAt endedAt _ ?_ ?_ ?_
        (.inr ⟨wanted, .failed code, ?_, rfl⟩)
      · simp [findings]
      · simp [readings, Attempt.Record.between]
      · simp [records]
        rfl
      · simp [installations]

/-- Every course of a round is balanced, by cases over the course. -/
theorem Course.balanced {result : Result} (course : Course plan events result)
    : Balanced plan events := by
  cases course with
  | offline opens =>
    exact opens.balanced_iff.2 (.inl ⟨by simp [records, said], by simp [findings, said]⟩)
  | settled opens looks settles =>
    rw [List.append_assoc]
    exact opens.balanced_iff.2 (looks.balanced settles)
  | restarting opens looks =>
    refine opens.balanced_iff.2 ?_
    cases looks with
    | installed release startedAt endedAt handedIn marked wanted =>
      refine balanced_between release startedAt endedAt 0 ?_ ?_ ?_
        (.inr ⟨wanted, .staged, ?_, rfl⟩)
      · simp [findings]
      · simp [readings, Attempt.Record.between]
      · simp [records, Attempt.succeeded]
      · simp [installations]

/-- In rounds from the first one on, no attempt is open before or after a round and no start or end
of an attempt is refused. A round in which a release was found hands in one record, with the two
readings of the clock and the code of its installation, and any other round hands in none. By
induction over the rounds.
-/
theorem attempts_accounted {last : Cycle} {passages : List (Passage Site)}
    (rounds : Rounds Site.ask plan {} passages last)
    : last.attempt.isOpen = false
      ∧ ∀ passage ∈ passages,
        passage.before.attempt.isOpen = false
        ∧ passage.after.attempt.isOpen = false
        ∧ (∀ e ∈ passage.events, ¬ Attempt.IsRefusal e)
        ∧ (∀ release, .found release ∈ findings.of passage.events
          → Accounted plan release passage.events)
        ∧ ((∀ release, .found release ∉ findings.of passage.events)
          → records.of passage.events = []) := by
  have isOpen_of_closed (tracker : Attempt.Tracker) (closed : tracker.startedAt = none)
      : tracker.isOpen = false := by
    rw [Attempt.Tracker.isOpen, closed, Option.isSome_none]
  obtain ⟨ended, each⟩ := rounds.courses rfl
  refine ⟨isOpen_of_closed _ ended, ?_⟩
  intro passage member
  obtain ⟨before, after, asked, -, course, met⟩ := each passage member
  obtain rfl := Site.met_ask_iff.1 met
  refine ⟨isOpen_of_closed _ before, isOpen_of_closed _ after,
    (Attempt.quiet_course course).not_isRefusal, ?_, ?_⟩
  · intro release found
    rcases course.balanced with ⟨-, unfound⟩ | ⟨release', foundOnly, accounted⟩
    · exact absurd found (unfound release)
    · rw [foundOnly, List.mem_singleton] at found
      cases found
      exact accounted
  · intro unfound
    rcases course.balanced with ⟨unrecorded, -⟩ | ⟨release, foundOnly, -⟩
    · exact unrecorded
    · exact absurd (foundOnly ▸ List.mem_singleton_self _) (unfound release)

theorem attempts_accounted_staged
    : let release : Release := ⟨"2.0.0", "http://host/image", none⟩
      let passage := Passage.steady (.found release) .staged ⟨{}, false⟩
      Rounds Site.ask ⟨{}, false⟩ {} [passage] passage.after
      ∧ findings.of passage.events = [.found release]
      ∧ Accounted ⟨{}, false⟩ release passage.events := by
  intro release passage
  have found : findings.of passage.events = [.found release] := rfl
  have member : passage ∈ [passage] := List.mem_singleton_self _
  obtain ⟨-, -, -, accounted, -⟩ := (attempts_accounted .steady).2 passage member
  exact ⟨.steady, found, accounted release (found ▸ List.mem_singleton_self _)⟩

end Cycle

end Caretaker
