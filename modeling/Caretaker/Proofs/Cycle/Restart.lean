import Caretaker.Proofs.Cycle.Rounds

/-!
A round restarts if it has installed a release, and for no other reason. The attempt is handed in
and the marker is left before that, and the restart is the last thing that is asked for.
-/

namespace Caretaker.Cycle

open Site Step View

variable {plan : Plan} {asked : List (Event Site)} {result : Result}

-----------------------------------------------------------------------------
-- Which rounds restart

/-- The site was online when it mattered, a release was found and wanted, and this release was
installed.
-/
def Installs (plan : Plan) (asked : List (Event Site)) : Prop :=
  (onlines.of asked).getLast? = some true
    ∧ plan.policy.downloads = true
    ∧ ∃ release, findings.of asked = [.found release]
      ∧ installations.of asked = [(release, .staged)]

/-- The last answer to whether the site is online is the one that the opening of a round ends
with.
-/
theorem Opening.getLast?_onlines {online : Bool} {opening rest : List (Event Site)}
    (opens : Opening plan online opening) (unasked : onlines.of rest = [])
    : (onlines.of (opening ++ rest)).getLast? = some online := by
  obtain ⟨before, seen⟩ := onlines.of_opening opens
  rw [of_append, unasked, List.append_nil, seen]
  exact List.getLast?_concat

/-- A round that is settled has installed nothing and does not restart, by cases over the look and
how it is settled.
-/
theorem Course.settled_without_restart {opening looking settling : List (Event Site)}
    {outcome : Outcome} {startedAt : Option Stamp} (opens : Opening plan true opening)
    (looks : Looking plan looking (some outcome) startedAt)
    (settles : Settling plan outcome startedAt settling)
    : (∀ release, (release, .staged) ∉ installations.of (opening ++ looking ++ settling))
      ∧ restarts.of (opening ++ looking ++ settling) = [] := by
  rw [List.append_assoc, installations.of_behind opens fun _ => rfl,
    restarts.of_behind opens fun _ => rfl]
  constructor
  · have behind : installations.of settling = [] := by
      cases settles <;> simp [installations, said]
    rw [of_append, behind, List.append_nil]
    cases looks <;> simp [installations]
  · have amid : restarts.of looking = [] := by
      cases looks <;> simp [restarts]
    have behind : restarts.of settling = [] := by
      cases settles <;> simp [restarts, said]
    rw [of_append, amid, behind, List.append_nil]

/-- A round in which a look came to no outcome has installed a release and restarts. -/
theorem Course.installs_of_restarting {opening looking : List (Event Site)}
    (opens : Opening plan true opening) (looks : Looking plan looking none none)
    : Installs plan (opening ++ looking)
      ∧ restarts.of (opening ++ looking) = [.firmwareUpdate] := by
  rw [Installs, findings.of_behind opens fun _ => rfl, installations.of_behind opens fun _ => rfl,
    restarts.of_behind opens fun _ => rfl]
  cases looks with
  | installed release startedAt endedAt handedIn marked wanted =>
    refine ⟨⟨opens.getLast?_onlines ?_, wanted, release, ?_, ?_⟩, ?_⟩
    · simp [onlines]
    · simp [findings]
    · simp [installations]
    · simp [restarts]

/-- A round installs a release and restarts, or it does neither. By cases over its course. -/
theorem Course.staged_or_not (course : Course plan asked result)
    : (result = .restarting ∧ Installs plan asked ∧ restarts.of asked = [.firmwareUpdate])
      ∨ (result ≠ .restarting ∧ (∀ release, (release, .staged) ∉ installations.of asked)
        ∧ restarts.of asked = []) := by
  cases course with
  | offline opens =>
    rw [installations.of_behind opens fun _ => rfl, restarts.of_behind opens fun _ => rfl]
    refine .inr ⟨nofun, ?_, ?_⟩
    · simp [installations, said]
    · simp [restarts, said]
  | settled opens looks settles =>
    exact .inr ⟨nofun, Course.settled_without_restart opens looks settles⟩
  | restarting opens looks => exact .inl ⟨rfl, Course.installs_of_restarting opens looks⟩

theorem Installs.staged (installs : Installs plan asked)
    : ∃ release, (release, .staged) ∈ installations.of asked := by
  obtain ⟨-, -, release, -, installed⟩ := installs
  exact ⟨release, installed ▸ List.mem_singleton_self _⟩

/-- A round restarts if it has installed a release and only then. -/
theorem Course.restarts_iff (course : Course plan asked result)
    : (restarts.of asked ≠ [] ↔ Installs plan asked)
      ∧ (result = .restarting ↔ Installs plan asked) := by
  rcases course.staged_or_not with ⟨rfl, installs, restarted⟩ | ⟨goes, unstaged, unrestarted⟩
  · simp [installs, restarted]
  · have uninstalled : ¬ Installs plan asked := by
      intro installs
      obtain ⟨release, staged⟩ := installs.staged
      exact unstaged release staged
    simp [uninstalled, goes, unrestarted]

-----------------------------------------------------------------------------
-- The last requests of a round that restarts

/-- Whether a request only says something. -/
def isSaying : Request → Bool
  | .report (.say _) => true
  | _ => false

/-- The requests of a round without what it says. -/
def calls (events : List (Event Site)) : List (Event Site) :=
  events.filter fun e => !isSaying e.request

@[simp]
theorem calls_nil : calls [] = [] := rfl

@[simp]
theorem calls_append (first second : List (Event Site))
    : calls (first ++ second) = calls first ++ calls second :=
  List.filter_append ..

@[simp]
theorem calls_cons (e : Event Site) (events : List (Event Site))
    : calls (e :: events) = if isSaying e.request then calls events else e :: calls events := by
  rw [calls, List.filter_cons]
  cases isSaying e.request <;> rfl

@[simp]
theorem isSaying_said {level : Log.Level} {origin message : String}
    : isSaying (said level origin message).request = true := rfl

@[simp]
theorem calls_complaint {level : Log.Level} {origin failure : String} {answer : Except Fault Unit}
    : calls (complaint level origin failure answer) = [] := by
  cases answer <;> simp [complaint]

/-- From the installation on, a round asks for the time, hands in a record of success, leaves a
marker and restarts.
-/
def Farewell (asked : List (Event Site)) : Prop :=
  ∃ (earlier : List (Event Site)) (release : Release) (endedAt : Stamp) (record : Attempt.Record)
    (handedIn marked : Except Fault Unit),
    calls asked
      = earlier ++ [
        ⟨.install release, .staged⟩,
        ⟨.now, endedAt⟩,
        ⟨.report (.attempt record), handedIn⟩,
        ⟨.mark .firmwareUpdate, marked⟩,
        ⟨.restart .firmwareUpdate, ()⟩]
    ∧ record.code = 0

/-- Every round that restarts ends in the same way, whatever fails in it. -/
theorem Course.farewell (course : Course plan asked .restarting)
    : Farewell asked := by
  cases course with
  | @restarting opening _ opens looks =>
    cases looks with
    | installed release startedAt endedAt handedIn marked wanted =>
      let earlier := opening ++ (looked (.found release) ++ foundEvents release startedAt)
      let record : Attempt.Record := .between startedAt endedAt Attempt.succeeded
      refine ⟨calls earlier, release, endedAt, record, handedIn, marked, ?_, rfl⟩
      simp [earlier, record, installedEvents, partingEvents, ended, Attempt.endedLine,
        Attempt.Record.between, isSaying, said]

/-- A restart behind which there is nothing but one restart is this one. -/
theorem eq_of_single_restart {before rest earlier : List (Event Site)}
    {reason last : Reset.Reason} (none : restarts.of earlier = [])
    (same : before ++ ⟨.restart reason, ()⟩ :: rest = earlier ++ [⟨.restart last, ()⟩])
    : before = earlier ∧ reason = last := by
  rcases List.eq_nil_or_concat rest with rfl | ⟨amid, final, rfl⟩
  · obtain ⟨rfl, single⟩ := List.append_inj' same rfl
    cases single
    exact ⟨rfl, rfl⟩
  · rw [List.concat_eq_append, ← List.cons_append, ← List.append_assoc] at same
    obtain ⟨rfl, -⟩ := List.append_inj' same rfl
    rw [of_append, of_cons] at none
    simp [restarts] at none

/-- Nothing follows a restart: what comes before it is all but the last request of a round that
restarts.
-/
theorem Course.before_restart {before rest : List (Event Site)} {reason : Reset.Reason}
    (course : Course plan (before ++ ⟨.restart reason, ()⟩ :: rest) result)
    : ∃ opening release startedAt endedAt handedIn marked,
      reason = .firmwareUpdate
      ∧ Opening plan true opening
      ∧ before = opening ++ (looked (.found release) ++ foundEvents release startedAt
        ++ ⟨.install release, .staged⟩
          :: partingEvents (.between startedAt endedAt Attempt.succeeded) handedIn marked) := by
  generalize same : before ++ ⟨.restart reason, ()⟩ :: rest = events at course
  have restarted : restarts.of events ≠ [] := by
    rw [← same, of_append, of_cons]
    simp [restarts]
  obtain rfl := course.restarts_iff.2.2 (course.restarts_iff.1.1 restarted)
  cases course with
  | @restarting opening _ opens looks =>
    cases looks with
    | installed release startedAt endedAt handedIn marked wanted =>
      let parting := partingEvents (.between startedAt endedAt Attempt.succeeded) handedIn marked
      let earlier := opening ++ (looked (.found release) ++ foundEvents release startedAt
        ++ ⟨.install release, .staged⟩ :: parting)
      have none : restarts.of earlier = [] := by
        rw [restarts.of_behind opens fun _ => rfl]
        simp [parting, restarts]
      have split : before ++ ⟨.restart reason, ()⟩ :: rest
          = earlier ++ [⟨.restart .firmwareUpdate, ()⟩] := by
        rw [same]
        simp [earlier, parting, installedEvents]
      obtain ⟨whole, reasons⟩ := eq_of_single_restart none split
      exact ⟨opening, release, startedAt, endedAt, handedIn, marked, reasons, opens, whole⟩

end Caretaker.Cycle
