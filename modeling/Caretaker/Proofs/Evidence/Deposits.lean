import Caretaker.Proofs.Cycle.Attempts
import Caretaker.Proofs.Evidence.Filing
import Caretaker.Proofs.Liveness.Passes

/-!
What rounds of the cycle and passes of the patrol report to the store. A round reports itself, how
its check ended, its attempt and its failure, and a pass reports each task that it finds stuck.
-/

namespace Caretaker

open Caretaker.Cycle Evidence Liveness Site Step View

-----------------------------------------------------------------------------
-- What a round reports

namespace Event

@[simp]
theorem deposit?_said (level : Log.Level) (origin message : String)
    : (said level origin message).deposit? = none := rfl

@[simp]
theorem deposits_complaint (level : Log.Level) (origin failure : String)
    (answer : Except Fault Unit)
    : deposits (complaint level origin failure answer) = [] := by
  cases answer <;> rfl

@[simp]
theorem deposits_tallied (counter : Counter) (answer : Except Fault Unit)
    : deposits (tallied counter answer) = [.count counter] := by
  rw [tallied, deposits_cons, deposits_complaint]
  rfl

@[simp]
theorem deposits_codeRemark (code : Int32) : deposits (Outcome.codeRemark code) = [] := by
  unfold Outcome.codeRemark
  split <;> rfl

@[simp]
theorem deposits_ended (record : Attempt.Record) (handedIn : Except Fault Unit)
    : deposits (ended record handedIn) = [.attempt record] := by
  rw [ended, deposits_append, deposits_complaint]
  rfl

/-- What asks nothing of the store has nothing to report. -/
theorem deposits_eq_nil {events : List (Event Site)} (silent : ∀ e ∈ events, e.deposit? = none)
    : deposits events = [] :=
  List.filterMap_eq_nil_iff.2 silent

end Event

namespace Cycle

/-- The count of how a check ended, if checks are counted. -/
def Result.tallies (plan : Plan) : Result → List Report
  | .checked outcome =>
    if plan.policy.countsChecks then
      [.count (if outcome.reachedServer then .successes else .failures)]
    else
      []
  | .offline | .restarting => []

/-- The evidence of a failure. -/
def Result.evidence : Result → List Report
  | .checked (.failed code) => [.notice (.failure code), .keepLog]
  | _ => []

variable {plan : Plan} {events : List (Event Site)} {result : Result}

@[simp]
theorem deposits_checkTallied (outcome : Outcome) (counted : Except Fault Unit)
    : Event.deposits (checkTallied plan outcome counted)
      = (Result.checked outcome).tallies plan := by
  unfold checkTallied Result.tallies
  split <;> simp

/-- In its opening a round reports nothing but that it is one. -/
theorem Opening.deposits {online : Bool} (opens : Opening plan online events)
    : Event.deposits events = [.count .rounds] := by
  cases opens with
  | direct counted => simp [Event.deposit?]
  | joining counted before online joins ran =>
    have joining := Program.Only.of_runs ran (Joining.attempt_only before)
    have nothing := Event.deposits_eq_nil fun e member => by
      obtain ⟨r, answer⟩ := e
      have isJoining := joining _ member
      cases r with
      | report report =>
        cases report with
        | say => rfl
        | _ => exact isJoining.elim
      | _ => rfl
    simp [nothing, Event.deposit?]

/-- What is settled is reported: the check, the attempt, and the evidence of a failure. By cases
over the look and how it is settled.
-/
theorem Looking.deposits {looking settling : List (Event Site)} {outcome : Outcome}
    {startedAt : Option Stamp} (looks : Looking plan looking (some outcome) startedAt)
    (settles : Settling plan outcome startedAt settling)
    : Event.deposits (looking ++ settling)
      = (Result.checked outcome).tallies plan ++ (records.of (looking ++ settling)).map .attempt
        ++ (Result.checked outcome).evidence := by
  cases looks <;> cases settles <;>
    simp [looked, foundEvents, begun, failedEvents, putOffEvents, Event.deposit?, Report.deposit?,
      Attempt.begunLine, said, records, Result.evidence]

/-- A round reports itself, how its check ended, its attempt and a failure. By cases over its
course.
-/
theorem Course.deposits (course : Course plan events result)
    : Event.deposits events
      = .count .rounds :: result.tallies plan ++ (records.of events).map .attempt
        ++ result.evidence := by
  cases course with
  | offline opens =>
    rw [Event.deposits_append, opens.deposits, records.of_behind opens fun _ => rfl]
    rfl
  | settled opens looks settles =>
    rw [List.append_assoc, Event.deposits_append, opens.deposits, looks.deposits settles,
      records.of_behind opens fun _ => rfl]
    rfl
  | restarting opens looks =>
    rw [Event.deposits_append, opens.deposits, records.of_behind opens fun _ => rfl]
    cases looks
    simp [looked, foundEvents, begun, installedEvents, partingEvents, Event.deposit?,
      Report.deposit?, Attempt.begunLine, said, records, Result.tallies, Result.evidence]

end Cycle

-----------------------------------------------------------------------------
-- What a pass reports

namespace Liveness

/-- What is reported about a stuck task. -/
def Stuck.deposits (task : Stuck) : List Report :=
  [.notice (.stuck task.name task.elapsed), .keepLog]

theorem escalate_deposits {escalation : Escalation} {task : Stuck} {events : List (Event Site)}
    (ran : Runs (escalate escalation task) events ())
    : Event.deposits events = task.deposits := by
  obtain ⟨noticed, kept, rest, rfl, ⟨-, rfl⟩ | ⟨-, marked, rfl⟩⟩ := escalate_runs ran <;>
    simp [stuckEvents, stuckLine, said, resetEvents, Event.deposit?, Report.deposit?,
      Stuck.deposits]

/-- A pass reports every task that it finds, by induction over the tasks. -/
theorem Patrol.Passes.deposits {escalation : Escalation} {registry : Registry}
    {looking : List (Event Site)} {handled : List (Stuck × List (Event Site))}
    (passes : Passes (escalate escalation) registry looking handled)
    : Event.deposits (looking ++ (handled.map Prod.snd).flatten)
      = (handled.map Prod.fst).flatMap Stuck.deposits := by
  have nothing : Event.deposits looking = [] := Event.deposits_eq_nil fun e member => by
    have isReading := Program.Only.of_runs passes.looks (Registry.stuckAmong_only ..) e member
    rw [Event.deposit?, isReading]
  have each := passes.handles
  rw [Event.deposits_append, nothing, List.nil_append]
  clear passes nothing
  induction handled with
  | nil => rfl
  | cons one rest ih =>
    rw [List.map_cons, List.flatten_cons, Event.deposits_append, List.map_cons, List.flatMap_cons,
      escalate_deposits (each one.1 one.2 (List.mem_cons_self ..)),
      ih fun task asked member => each task asked (List.mem_cons_of_mem _ member)]

end Liveness

end Caretaker
