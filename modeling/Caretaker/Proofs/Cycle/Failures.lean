import Caretaker.Proofs.Cycle.Rounds

/-!
What a failed look for a release leaves behind. A failure is reported with some code in either half
of the look. It is recorded with one negative code wherever it is told, and nothing else makes a
round leave evidence of a failure.
-/

namespace Caretaker

-----------------------------------------------------------------------------
-- Codes of failures

namespace Outcome

/-- A failure is never recorded with a code of success. -/
theorem failureCode_neg (code : Int32) : failureCode code < 0 := by
  unfold failureCode
  split
  case isTrue negative => exact negative
  case isFalse => decide

/-- Outcomes are told apart by their return codes, as long as failures have codes of failures. -/
theorem ofReturnCode_returnCode {outcome : Outcome}
    (negative : ∀ code, outcome = .failed code → code < 0)
    : ofReturnCode outcome.returnCode = outcome := by
  cases outcome with
  | upToDate => rfl
  | available => rfl
  | failed code =>
    have below : code < 0 := negative code rfl
    have nonzero : code ≠ 0 := by
      rintro rfl
      exact absurd below (by decide)
    rw [returnCode, ofReturnCode, if_neg nonzero, if_pos below]

end Outcome

-----------------------------------------------------------------------------
-- What is told in a round

namespace Site

/-- What an event tells: a report, unless it is a line that is no error of the cycle itself. -/
def told? : Event Site → Option Report
  | ⟨.report (.say record), _⟩ =>
    if record.level = .error ∧ record.path = some Cycle.Step.origin then
      some (.say record)
    else
      none
  | ⟨.report r, _⟩ => some r
  | _ => none

/-- What is told in some events, in order. -/
def telling (events : List (Event Site)) : List Report :=
  events.filterMap told?

@[simp]
theorem telling_nil : telling [] = [] := rfl

@[simp]
theorem telling_append (first second : List (Event Site))
    : telling (first ++ second) = telling first ++ telling second :=
  List.filterMap_append

@[simp]
theorem telling_cons (e : Event Site) (events : List (Event Site))
    : telling (e :: events) = (told? e).toList ++ telling events := by
  rw [telling, List.filterMap_cons]
  cases told? e <;> rfl

@[simp]
theorem told?_said {level : Log.Level} {origin message : String}
    : told? (said level origin message)
      = if level = .error ∧ origin = Cycle.Step.origin then
          some (.say ⟨level, some origin, message⟩)
        else
          none := by
  simp [told?, said]

@[simp]
theorem telling_complaint {origin failure : String} {answer : Except Fault Unit}
    : telling (complaint .warn origin failure answer) = [] := by
  cases answer <;> simp [complaint]

end Site

open Site Caretaker.Cycle Step View

namespace View

/-- The codes of failures that are reported, in either half of a look. -/
def failures : View Int32 where
  see
    | ⟨.check, .failed code⟩ => some code
    | ⟨.install _, .failed code⟩ => some code
    | _ => none
  overlooks e background := by
    obtain ⟨r, answer⟩ := e
    cases r with
    | check | install => exact background.elim
    | _ => rfl

theorem failures_blind (e : Event Site) (settling : IsSettling e.request)
    : failures.see e = none := by
  obtain ⟨r, answer⟩ := e
  cases r with
  | check | install => exact settling.elim
  | _ => rfl

/-- A failure is reported in the answer to whether there is a release, or in how an installation
goes.
-/
theorem mem_failures_iff {events : List (Event Site)} {code : Int32}
    : code ∈ failures.of events
      ↔ ⟨.check, .failed code⟩ ∈ events ∨ ∃ release, ⟨.install release, .failed code⟩ ∈ events := by
  rw [of, List.mem_filterMap]
  constructor
  · rintro ⟨⟨r, answer⟩, member, seen⟩
    cases r with
    | check =>
      cases answer <;> cases seen
      exact .inl member
    | install release =>
      cases answer <;> cases seen
      exact .inr ⟨release, member⟩
    | _ => cases seen
  · rintro (member | ⟨release, member⟩)
    · exact ⟨_, member, rfl⟩
    · exact ⟨_, member, rfl⟩

end View

namespace Cycle

variable {plan : Plan}

@[simp]
theorem telling_tallied {counter : Counter} {answer : Except Fault Unit}
    : telling (tallied counter answer) = [.count counter] := by
  simp [tallied, told?]

@[simp]
theorem telling_codeRemark {code : Int32} : telling (Outcome.codeRemark code) = [] := by
  unfold Outcome.codeRemark
  split <;> simp

@[simp]
theorem telling_ended {record : Attempt.Record} {handedIn : Except Fault Unit}
    : telling (ended record handedIn) = [.attempt record] := by
  simp [ended, Attempt.endedLine, told?, said]

@[simp]
theorem telling_looked {finding : Finding} : telling (looked finding) = [] := by
  simp [looked, told?, said]

@[simp]
theorem telling_foundEvents {release : Release} {time : Stamp}
    : telling (foundEvents release time) = [] := by
  simp [foundEvents, begun, Attempt.begunLine, told?, said]

/-- Nothing is told in the opening of a round but that it has begun. -/
theorem Opening.telling_eq {online : Bool} {opening : List (Event Site)}
    (opens : Opening plan online opening)
    : telling opening = [.count .rounds] := by
  cases opens with
  | direct => simp [told?]
  | @joining counted before _ way _ _ ran =>
    have untold : telling way = [] := by
      refine List.filterMap_eq_nil_iff.2 fun e member => ?_
      have joining := Program.Only.of_runs ran (Joining.attempt_only before) e member
      obtain ⟨r, answer⟩ := e
      cases r with
      | report report =>
        cases report with
        | say record =>
          have elsewhere : record.path ≠ some Step.origin := by
            rw [show record.path = some Joining.origin from joining]
            decide
          exact if_neg fun own => elsewhere own.2
        | _ => exact joining.elim
      | _ => rfl
    simp [untold, told?]

theorem telling_checkTallied {outcome : Outcome} {answer : Except Fault Unit}
    : telling (checkTallied plan outcome answer)
      = if plan.policy.countsChecks then
          [.count (if outcome.reachedServer then .successes else .failures)]
        else
          [] := by
  unfold checkTallied
  split <;> simp

-----------------------------------------------------------------------------
-- One code for each failure

/-- All that is told in a round that fails with a code, with the records of attempts. -/
def failureReports (plan : Plan) (code : Int32) (records : List Attempt.Record) : List Report :=
  .count .rounds :: (if plan.policy.countsChecks then [.count .failures] else [])
    ++ .say ⟨.error, some "orchestrator", "OTA update failed, rv=" ++ toString code.toInt⟩
      :: records.map .attempt
    ++ [.notice ⟨"ota_install_failure", "error code=" ++ toString code.toInt⟩, .keepLog]

/-- A round tells of a failure with a code. It hands in the record of an attempt, with this code,
if a release was found.
-/
def Diagnosed (plan : Plan) (code : Int32) (events : List (Event Site)) : Prop :=
  ∃ records, telling events = failureReports plan code records
    ∧ ((records = [] ∧ ∀ release, .found release ∉ findings.of events)
      ∨ ∃ release record, findings.of events = [.found release] ∧ records = [record]
        ∧ record.code = code)

/-- A round leaves no evidence of a failure. -/
def Unremarkable (events : List (Event Site)) : Prop :=
  (∀ notice, .notice notice ∉ telling events) ∧ .keepLog ∉ telling events

theorem telling_failedEvents {code : Int32} {ending : List (Event Site)}
    {noticed kept : Except Fault Unit}
    : telling (failedEvents code ending noticed kept)
      = .say ⟨.error, some "orchestrator", "OTA update failed, rv=" ++ toString code.toInt⟩
        :: telling ending ++ [.notice (.failure code), .keepLog] := by
  simp [failedEvents, told?, said, Step.origin]

variable {opening looking settling : List (Event Site)} {outcome : Outcome}
  {startedAt : Option Stamp}

/-- What is told in a round that fails, if the look itself told nothing. -/
theorem telling_failing {online : Bool} {code : Int32} {ending : List (Event Site)}
    {counted noticed kept : Except Fault Unit} {records : List Attempt.Record}
    (opens : Opening plan online opening) (untold : telling looking = [])
    (ended : telling ending = records.map .attempt)
    : telling (opening ++ looking
          ++ (checkTallied plan (.failed code) counted ++ failedEvents code ending noticed kept))
      = failureReports plan code records := by
  rw [telling_append, telling_append, telling_append, opens.telling_eq, untold,
    telling_checkTallied, telling_failedEvents, ended]
  simp [failureReports, Outcome.reachedServer, Notice.failure]

/-- Nothing that is settled but a failure leaves evidence of one. -/
theorem Settling.unremarkable (settles : Settling plan outcome startedAt settling)
    (good : ∀ code, outcome ≠ .failed code)
    : Unremarkable settling := by
  unfold Unremarkable
  cases settles with
  | upToDate counted =>
    rw [telling_append, telling_checkTallied]
    split <;> simp [told?, said]
  | available startedAt endedAt counted handedIn =>
    rw [telling_append, telling_checkTallied, putOffEvents]
    split <;> simp [told?, said]
  | failed code => exact absurd rfl (good code)
  | installFailed code => exact absurd rfl (good code)

/-- A round in which a failure was reported is diagnosed with one code, and a round in which none
was leaves no evidence of one. By cases over the look and how it is settled.
-/
theorem Looking.diagnosed (opens : Opening plan true opening)
    (looks : Looking plan looking (some outcome) startedAt)
    (settles : Settling plan outcome startedAt settling)
    : (∃ code, failures.of (opening ++ looking ++ settling) = [code]
        ∧ outcome = .failed (Outcome.failureCode code)
        ∧ Diagnosed plan (Outcome.failureCode code) (opening ++ looking ++ settling))
      ∨ (failures.of (opening ++ looking ++ settling) = [] ∧ (∀ code, outcome ≠ .failed code)
        ∧ Unremarkable (opening ++ looking ++ settling)) := by
  have unremarkable (untold : telling looking = []) (good : ∀ code, outcome ≠ .failed code)
      : Unremarkable (opening ++ looking ++ settling) := by
    obtain ⟨unnoticed, unkept⟩ := settles.unremarkable good
    simp [Unremarkable, opens.telling_eq, untold, unnoticed, unkept]
  simp only [Diagnosed, failures.of_settled opens settles (fun _ => rfl) failures_blind,
    findings.of_settled opens settles (fun _ => rfl) findings_blind]
  cases looks with
  | nothing => exact .inr ⟨by simp [failures], nofun, unremarkable (by simp) nofun⟩
  | failed code =>
    cases settles with
    | failed =>
      refine .inl ⟨code, ?_, rfl, [], telling_failing opens ?_ rfl, .inl ⟨rfl, ?_⟩⟩
      · simp [failures]
      · simp
      · simp [findings]
  | unwanted release startedAt refused =>
    exact .inr ⟨by simp [failures], nofun, unremarkable (by simp) nofun⟩
  | deferred release startedAt wanted =>
    exact .inr ⟨by simp [failures], nofun, unremarkable (by simp [told?]) nofun⟩
  | installFailed release startedAt code wanted =>
    cases settles with
    | installFailed _ _ endedAt =>
      refine .inl ⟨code, ?_, rfl, [.between startedAt endedAt (Outcome.failureCode code)],
        telling_failing opens ?_ ?_, .inr ⟨release, _, ?_, rfl, rfl⟩⟩
      · simp [failures]
      · simp [told?]
      · simp
      · simp [findings]

/-- Every round is diagnosed or unremarkable, by cases over its course. -/
theorem Course.diagnosed {asked : List (Event Site)} {result : Result}
    (course : Course plan asked result)
    : (∃ code, failures.of asked = [code]
        ∧ result = .checked (.failed (Outcome.failureCode code))
        ∧ Diagnosed plan (Outcome.failureCode code) asked)
      ∨ (failures.of asked = [] ∧ (∀ code, result ≠ .checked (.failed code))
        ∧ Unremarkable asked) := by
  cases course with
  | offline opens =>
    refine .inr ⟨?_, nofun, ?_⟩
    · rw [failures.of_behind opens fun _ => rfl]
      simp [failures, said]
    · simp [Unremarkable, opens.telling_eq, told?, said]
  | settled opens looks settles =>
    rcases looks.diagnosed opens settles with ⟨code, reported, rfl, diagnosed⟩
      | ⟨unreported, good, unremarkable⟩
    · exact .inl ⟨code, reported, rfl, diagnosed⟩
    · refine .inr ⟨unreported, ?_, unremarkable⟩
      intro code same
      exact good code (Result.checked.inj same)
  | restarting opens looks =>
    cases looks with
    | installed release startedAt endedAt handedIn marked wanted =>
      refine .inr ⟨?_, nofun, ?_⟩
      · rw [failures.of_behind opens fun _ => rfl]
        simp [failures]
      · cases marked <;>
          simp [Unremarkable, opens.telling_eq, installedEvents, partingEvents, complaint, told?,
            said]

/-- In rounds from the first one on, a round fails if and only if a failure was reported in one of
the two halves of its look. It fails with the code that was reported if this is negative, and with
`-1` otherwise, so that the server does not count as reached. This code is in the line about the
failure, in the record of the attempt if a release was found, and in the notice, which come in this
order behind the count of the check. The log is kept behind them. No other round leaves a notice or
keeps the log. The outcome of each round is the one that its return code stands for.
-/
theorem failures_keep_one_code {passages : List (Passage Site)} {last : Cycle}
    (rounds : Rounds Site.ask plan {} passages last)
    : ∀ passage ∈ passages,
        (∀ c, passage.result = .checked (.failed c)
          ↔ ∃ x : Int32, c = (if x < 0 then x else -1)
            ∧ (⟨.check, .failed x⟩ ∈ passage.events
              ∨ ∃ release, ⟨.install release, .failed x⟩ ∈ passage.events))
        ∧ (∀ c, passage.result = .checked (.failed c)
          → c < 0 ∧ (Outcome.failed c).reachedServer = false ∧ Diagnosed plan c passage.events)
        ∧ ((∀ c, passage.result ≠ .checked (.failed c)) → Unremarkable passage.events)
        ∧ ∀ outcome, passage.result = .checked outcome
          → Outcome.ofReturnCode outcome.returnCode = outcome := by
  intro passage member
  obtain ⟨-, -, asked, -, course, met⟩ := (rounds.courses rfl).2 passage member
  obtain rfl := Site.met_ask_iff.1 met
  simp only [← mem_failures_iff]
  rcases course.diagnosed with ⟨code, reported, failed, diagnosed⟩
    | ⟨unreported, good, unremarkable⟩
  · rw [failed, reported]
    refine ⟨?_, ?_, ?_, ?_⟩
    · intro c
      simp [Outcome.failureCode, Outcome.genericFailure, eq_comm]
    · rintro c ⟨⟩
      exact ⟨Outcome.failureCode_neg code, rfl, diagnosed⟩
    · intro good
      exact absurd rfl (good _)
    · rintro outcome ⟨⟩
      refine Outcome.ofReturnCode_returnCode ?_
      rintro c ⟨⟩
      exact Outcome.failureCode_neg code
  · rw [unreported]
    refine ⟨?_, ?_, fun _ => unremarkable, ?_⟩
    · intro c
      simp [good c]
    · intro c failed
      exact absurd failed (good c)
    · intro outcome checked
      refine Outcome.ofReturnCode_returnCode ?_
      rintro c rfl
      exact absurd checked (good c)

theorem failures_keep_one_code_positive
    : let release : Release := ⟨"2.0.0", "http://host/image", none⟩
      let passage := Passage.steady (.found release) (.failed 7) ⟨{}, false⟩
      Rounds Site.ask ⟨{}, false⟩ {} [passage] passage.after
      ∧ passage.result = .checked (.failed (-1))
      ∧ Diagnosed ⟨{}, false⟩ (-1) passage.events := by
  intro release passage
  obtain ⟨fails, diagnosed, -⟩ :=
    failures_keep_one_code .steady passage (List.mem_singleton_self _)
  have failed : passage.result = .checked (.failed (-1)) := by
    refine (fails (-1)).2 ⟨7, rfl, .inr ⟨release, mem_installations_iff.1 ?_⟩⟩
    exact List.mem_singleton_self _
  exact ⟨.steady, failed, (diagnosed _ failed).2.2⟩

end Cycle

end Caretaker
