import Caretaker.Liveness.Patrol
import Caretaker.Proofs.Cycle.Steps

/-!
Passes of the patrol. A pass looks for stuck tasks and handles each of them in the order in which
they were found, and what is asked about one of them comes in one piece.
-/

namespace Caretaker.Liveness

open Site

-----------------------------------------------------------------------------
-- Looks for stuck tasks

/-- A look for stuck tasks only reads the clock, by induction over the entries. -/
theorem Registry.stuckAmong_reads {S : Signature} [Clock S] {allowed : S.Request → Prop}
    (reads : (now : Program S Stamp).Only allowed) (room : Nat) (fallback : UInt32)
    (entries : List Entry) (found : List Stuck)
    : (stuckAmong room fallback entries found : Program S _).Only allowed := by
  induction entries generalizing found with
  | nil => trivial
  | cons entry rest ih =>
    rw [stuckAmong]
    cases entry.armedAt with
    | none => exact ih found
    | some armedAt => exact .bind reads fun _ => ih _

/-- A look for stuck tasks asks for nothing but the time. -/
theorem Registry.stuckAmong_only (room : Nat) (fallback : UInt32) (entries : List Entry)
    (found : List Stuck)
    : (stuckAmong room fallback entries found : Program Site _).Only (· = Request.now) := by
  have reads : (now : Program Site Stamp).Only (· = Request.now) := ⟨rfl, fun _ => trivial⟩
  exact stuckAmong_reads reads room fallback entries found

-----------------------------------------------------------------------------
-- Stuck tasks in turn

section

variable {S : Signature} {handle : Stuck → Program S Unit} {events : List (Event S)}

/-- All tasks are handled in turn, by induction over the tasks. -/
theorem forM_runs_iff {tasks : List Stuck}
    : Runs (tasks.forM handle) events ()
      ↔ ∃ handled : List (Stuck × List (Event S)), handled.map Prod.fst = tasks
        ∧ (∀ task asked, (task, asked) ∈ handled → Runs (handle task) asked ())
        ∧ events = (handled.map Prod.snd).flatten := by
  induction tasks generalizing events with
  | nil =>
    refine Runs.done_iff.trans ?_
    constructor
    · intro h
      exact ⟨[], rfl, nofun, h.1⟩
    · intro h
      obtain ⟨handled, none, -, rfl⟩ := h
      obtain rfl := List.map_eq_nil_iff.1 none
      exact ⟨rfl, rfl⟩
  | cons task tasks ih =>
    refine Runs.bind_iff.trans ?_
    constructor
    · intro h
      obtain ⟨first, others, ⟨⟩, rfl, ran, rest⟩ := h
      obtain ⟨handled, rfl, each, rfl⟩ := ih.1 rest
      refine ⟨(task, first) :: handled, rfl, ?_, rfl⟩
      intro other asked member
      rcases List.mem_cons.1 member with same | member
      · cases same
        exact ran
      · exact each other asked member
    · intro h
      obtain ⟨handled, names, each, rfl⟩ := h
      obtain ⟨⟨first, asked⟩, handled, rfl, rfl, rfl⟩ := List.map_eq_cons_iff.1 names
      refine ⟨asked, _, (), rfl, each _ _ (List.mem_cons_self ..), ih.2 ⟨handled, rfl, ?_, rfl⟩⟩
      intro other asked member
      exact each other asked (List.mem_cons_of_mem _ member)

/-- A pass over a registry: what is asked in looking for stuck tasks, and the tasks that are found,
each with what is asked in handling it.
-/
structure Patrol.Passes [Clock S] (handle : Stuck → Program S Unit) (registry : Registry)
    (looking : List (Event S)) (handled : List (Stuck × List (Event S))) : Prop where
  looks : Runs registry.stuck looking (handled.map Prod.fst)
  handles : ∀ task asked, (task, asked) ∈ handled → Runs (handle task) asked ()

/-- A pass handles every task that it finds, and tells how many there were. -/
theorem Patrol.pass_runs_iff [Clock S] {registry : Registry} {count : Nat}
    : Runs (pass handle registry) events count
      ↔ ∃ looking handled, Passes handle registry looking handled
        ∧ events = looking ++ (handled.map Prod.snd).flatten ∧ count = handled.length := by
  rw [pass, Runs.bind_iff]
  constructor
  · intro h
    obtain ⟨looking, others, stuck, rfl, looks, rest⟩ := h
    obtain ⟨ran, rfl⟩ := Runs.then_done_iff.1 rest
    obtain ⟨handled, rfl, handles, rfl⟩ := forM_runs_iff.1 ran
    exact ⟨looking, handled, ⟨looks, handles⟩, rfl, List.length_map ..⟩
  · intro h
    obtain ⟨looking, handled, ⟨looks, handles⟩, rfl, rfl⟩ := h
    refine ⟨looking, _, _, rfl, looks, Runs.then_done_iff.2 ⟨?_, (List.length_map ..).symm⟩⟩
    exact forM_runs_iff.2 ⟨handled, rfl, handles, rfl⟩

/-- Every choice of answers gives a pass. -/
theorem Patrol.Passes.follow [Clock S] (handle : Stuck → Program S Unit)
    (answer : (r : S.Request) → S.Answer r) (registry : Registry)
    : Passes handle registry (registry.stuck.follow answer).1
        ((registry.stuck.follow answer).2.map fun task =>
          (task, ((handle task).follow answer).1)) where
  looks := by
    rw [List.map_map, Function.comp_def, List.map_id']
    exact Runs.follow answer registry.stuck
  handles task asked member := by
    obtain ⟨other, isFound, same⟩ := List.mem_map.1 member
    cases same
    exact Runs.follow answer (handle _)

end

-----------------------------------------------------------------------------
-- The handler of a caretaker

/-- What is said about a stuck task. -/
def stuckLine (task : Stuck) : Event Site :=
  said .error Registry.origin ("Task watchdog: '" ++ task.name ++ "' stuck for "
    ++ toString task.elapsed.toNat ++ "ms (timeout " ++ toString task.timeout.toNat ++ "ms)")

/-- What is asked to leave evidence of a stuck task. -/
def stuckEvents (task : Stuck) (noticed kept : Except Fault Unit) : List (Event Site) :=
  stuckLine task :: ⟨.report (.notice (.stuck task.name task.elapsed)), noticed⟩
    :: complaint .warn Registry.origin "Failed to record trace event" noticed
    ++ ⟨.report .keepLog, kept⟩
      :: complaint .warn Registry.origin "Failed to trigger log collection" kept

/-- What is asked to restart because of a stuck task. -/
def resetEvents (marked : Except Fault Unit) : List (Event Site) :=
  ⟨.mark .stuckTask, marked⟩
    :: complaint .error Registry.origin "Failed to persist reboot marker" marked
    ++ [⟨.restart .stuckTask, ()⟩]

/-- A stuck task leaves its evidence, and a restart follows if the policy says so. -/
theorem escalate_runs {escalation : Escalation} {task : Stuck} {events : List (Event Site)}
    (h : Runs (escalate escalation task) events ())
    : ∃ noticed kept rest, events = stuckEvents task noticed kept ++ rest
      ∧ (escalation = .log ∧ rest = []
        ∨ escalation = .restart ∧ ∃ marked, rest = resetEvents marked) := by
  rw [escalate, Runs.bind_iff] at h
  obtain ⟨line, others, ⟨⟩, rfl, told, h⟩ := h
  obtain rfl := say_runs_iff.1 told
  rw [Runs.bind_iff] at h
  obtain ⟨giving, others, noticed, rfl, given, h⟩ := h
  obtain rfl := Runs.request_iff.1 given
  rw [Runs.bind_iff] at h
  obtain ⟨first, others, ⟨⟩, rfl, tolerated, h⟩ := h
  obtain rfl := tolerate_runs_iff.1 tolerated
  rw [Runs.bind_iff] at h
  obtain ⟨keeping, others, kept, rfl, keep, h⟩ := h
  obtain rfl := Runs.request_iff.1 keep
  rw [Runs.bind_iff] at h
  obtain ⟨second, rest, ⟨⟩, rfl, tolerated, h⟩ := h
  obtain rfl := tolerate_runs_iff.1 tolerated
  refine ⟨noticed, kept, rest, by simp [stuckEvents, stuckLine], ?_⟩
  cases escalation with
  | log =>
    rw [if_neg (by decide)] at h
    exact .inl ⟨rfl, (Runs.done_iff.1 h).1⟩
  | restart =>
    rw [if_pos rfl, Runs.bind_iff] at h
    obtain ⟨marking, others, marked, rfl, mark, h⟩ := h
    obtain rfl := Runs.request_iff.1 mark
    rw [Runs.bind_iff] at h
    obtain ⟨third, last, ⟨⟩, rfl, tolerated, h⟩ := h
    obtain rfl := tolerate_runs_iff.1 tolerated
    obtain rfl := Runs.request_iff.1 h
    exact .inr ⟨rfl, marked, by simp [resetEvents]⟩

end Caretaker.Liveness
