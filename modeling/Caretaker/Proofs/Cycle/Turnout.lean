import Caretaker.Proofs.Cycle.Restart
import Caretaker.Proofs.Evidence.Deposits

/-!
How a round turns out where releases are wanted. If the site is offline, the server of releases is
left alone. Otherwise it is asked for a release once, and then for the installation of what it has
found, and its answers alone decide what the round tells the store and how it ends.
-/

namespace Caretaker

open Caretaker.Cycle Site Step View

-----------------------------------------------------------------------------
-- The server of releases

/-- What the server of releases is asked, with its answers. -/
def View.servings : View (Event Site) where
  see e :=
    match e.request with
    | .check | .install _ => some e
    | _ => none
  overlooks e background := by
    obtain ⟨r, answer⟩ := e
    cases r with
    | check | install => exact background.elim
    | _ => rfl

theorem View.servings_blind (e : Event Site) (settling : IsSettling e.request)
    : servings.see e = none := by
  obtain ⟨r, answer⟩ := e
  cases r with
  | check | install => exact settling.elim
  | _ => rfl

-----------------------------------------------------------------------------
-- The turnout of a round

namespace Cycle

/-- How a round turns out: whether the site was online when it mattered, what the server of releases
was asked, the attempts that were handed in, and the result.
-/
inductive Turnout : Bool → List (Event Site) → List Attempt.Record → Result → Prop where
  | offline : Turnout false [] [] .offline
  | nothing : Turnout true [⟨.check, .nothing⟩] [] (.checked .upToDate)
  | failed (code : Int32)
      : Turnout true [⟨.check, .failed code⟩] [] (.checked (.failed (Outcome.failureCode code)))
  | deferred (release : Release) (record : Attempt.Record) (code : record.code = Attempt.deferred)
      : Turnout true [⟨.check, .found release⟩, ⟨.install release, .deferred⟩] [record]
          (.checked .available)
  | installFailed (release : Release) (failure : Int32) (record : Attempt.Record)
      (code : record.code = Outcome.failureCode failure)
      : Turnout true [⟨.check, .found release⟩, ⟨.install release, .failed failure⟩] [record]
          (.checked (.failed (Outcome.failureCode failure)))
  | staged (release : Release) (record : Attempt.Record) (code : record.code = Attempt.succeeded)
      : Turnout true [⟨.check, .found release⟩, ⟨.install release, .staged⟩] [record] .restarting

variable {plan : Plan} {asked : List (Event Site)} {result : Result}

/-- What is settled turns out as its look has gone, by cases over the look and how it is settled. -/
theorem Looking.turnout {looking settling : List (Event Site)} {outcome : Outcome}
    {startedAt : Option Stamp} (wanted : plan.policy.downloads = true)
    (looks : Looking plan looking (some outcome) startedAt)
    (settles : Settling plan outcome startedAt settling)
    : Turnout true (servings.of looking) (records.of (looking ++ settling)) (.checked outcome) := by
  cases looks with
  | nothing =>
    cases settles with
    | upToDate => simpa [servings, records, said] using Turnout.nothing
  | failed code =>
    cases settles with
    | failed => simpa [servings, records] using Turnout.failed code
  | unwanted release startedAt refused => cases refused.symm.trans wanted
  | deferred release startedAt =>
    cases settles with
    | available _ endedAt =>
      simpa [servings, records]
        using Turnout.deferred release (.between startedAt endedAt Attempt.deferred) rfl
  | installFailed release startedAt failure =>
    cases settles with
    | installFailed _ _ endedAt =>
      simpa [servings, records] using Turnout.installFailed release failure
        (.between startedAt endedAt (Outcome.failureCode failure)) rfl

/-- Every round turns out in one of these ways, and the last answer to whether the site is online
tells in which. By cases over its course.
-/
theorem Course.turnout (wanted : plan.policy.downloads = true) (course : Course plan asked result)
    : ∃ online, (onlines.of asked).getLast? = some online
      ∧ Turnout online (servings.of asked) (records.of asked) result := by
  cases course with
  | offline opens =>
    refine ⟨false, opens.getLast?_onlines ?_, ?_⟩
    · simp [onlines, said]
    · rw [servings.of_behind opens fun _ => rfl, records.of_behind opens fun _ => rfl]
      simpa [servings, records, said] using Turnout.offline
  | @settled opening looking settling outcome startedAt opens looks settles =>
    refine ⟨true, ?_, ?_⟩
    · rw [List.append_assoc]
      refine opens.getLast?_onlines ?_
      have before : onlines.of looking = [] := by
        cases looks <;> simp [onlines]
      have behind : onlines.of settling = [] := by
        cases settles <;> simp [onlines, said]
      rw [of_append, before, behind, List.append_nil]
    · rw [servings.of_settled opens settles (fun _ => rfl) servings_blind, List.append_assoc,
        records.of_behind opens fun _ => rfl]
      exact looks.turnout wanted settles
  | @restarting opening looking opens looks =>
    refine ⟨true, opens.getLast?_onlines ?_, ?_⟩
    · cases looks
      simp [onlines]
    · rw [servings.of_behind opens fun _ => rfl, records.of_behind opens fun _ => rfl]
      cases looks with
      | installed release startedAt endedAt =>
        simpa [servings, records]
          using Turnout.staged release (.between startedAt endedAt Attempt.succeeded) rfl

-----------------------------------------------------------------------------
-- What a round tells

/-- What is told to the store, apart from that there was a round. -/
def tidings (asked : List (Event Site)) : List Report :=
  (Event.deposits asked).filter (· ≠ .count .rounds)

/-- A round does not report itself behind its opening, by cases over the result. -/
theorem Result.rounds_not_mem {handedIn : List Attempt.Record}
    : .count .rounds ∉ result.tallies plan ++ handedIn.map .attempt ++ result.evidence := by
  have untallied : .count .rounds ∉ result.tallies plan := by
    unfold Result.tallies
    grind
  have unproved : .count .rounds ∉ result.evidence := by
    unfold Result.evidence
    grind
  simp [untallied, unproved]

/-- Every round reports that it is one, and does so once. -/
theorem Course.count_rounds (course : Course plan asked result)
    : (Event.deposits asked).count (.count .rounds) = 1 := by
  rw [course.deposits, List.cons_append, List.cons_append, List.count_cons_self,
    List.count_eq_zero_of_not_mem Result.rounds_not_mem]

/-- A round tells how its check ended, its attempt and a failure. -/
theorem Course.tidings (course : Course plan asked result)
    : Cycle.tidings asked
      = result.tallies plan ++ (records.of asked).map .attempt ++ result.evidence := by
  rw [Cycle.tidings, course.deposits, List.cons_append, List.cons_append,
    List.filter_cons_of_neg, List.filter_eq_self]
  · intro report member
    exact decide_eq_true fun same => Result.rounds_not_mem (same ▸ member)
  · simp

theorem Result.tallies_of_counts (counts : plan.policy.countsChecks = true) (outcome : Outcome)
    : (Result.checked outcome).tallies plan
      = [.count (if outcome.reachedServer then .successes else .failures)] :=
  if_pos counts

end Cycle

end Caretaker
