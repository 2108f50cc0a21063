import Caretaker.Proofs.Cycle.Restart
import Caretaker.Proofs.Liveness.Enrollment
import Caretaker.Proofs.Liveness.Overdue
import Caretaker.Proofs.Liveness.Passes

/-!
The watch that a patrol keeps over a registry. Its passes come in between what is done to the
registry and change nothing about it, they report stuck tasks in the order of their registration,
and they restart nothing unless the policy says so.
-/

namespace Caretaker.Liveness

open Site Caretaker.Cycle

-----------------------------------------------------------------------------
-- What is asked about one task

/-- What is asked in handling a stuck task. -/
def handlingEvents (escalation : Escalation) (task : Stuck)
    (noticed kept marked : Except Fault Unit)
    : List (Event Site) :=
  stuckEvents task noticed kept
    ++ match escalation with
      | .log => []
      | .restart => resetEvents marked

/-- The handler asks all of its requests in one order, whatever the answers to them. -/
theorem escalate_runs_iff {escalation : Escalation} {task : Stuck} {events : List (Event Site)}
    : Runs (escalate escalation task) events ()
      ↔ ∃ noticed kept marked, events = handlingEvents escalation task noticed kept marked := by
  constructor
  · intro ran
    obtain ⟨noticed, kept, rest, rfl, restarts⟩ := escalate_runs ran
    rcases restarts with ⟨rfl, rfl⟩ | ⟨rfl, marked, rfl⟩
    · exact ⟨noticed, kept, .ok (), rfl⟩
    · exact ⟨noticed, kept, marked, rfl⟩
  · intro h
    obtain ⟨noticed, kept, marked, rfl⟩ := h
    have ordered : handlingEvents escalation task noticed kept marked
        = [stuckLine task] ++ ([⟨.report (.notice (.stuck task.name task.elapsed)), noticed⟩]
          ++ (complaint .warn Registry.origin "Failed to record trace event" noticed
          ++ ([⟨.report .keepLog, kept⟩]
          ++ (complaint .warn Registry.origin "Failed to trigger log collection" kept
          ++ match escalation with
            | .log => []
            | .restart => resetEvents marked)))) := by
      simp [handlingEvents, stuckEvents]
    rw [ordered]
    refine (Runs.bind_iff_of (say_runs_iff.2 rfl)).2 ?_
    refine (Runs.bind_iff_of (Runs.request_iff.2 rfl)).2 ?_
    refine (Runs.bind_iff_of (tolerate_runs_iff.2 rfl)).2 ?_
    refine (Runs.bind_iff_of (Runs.request_iff.2 rfl)).2 ?_
    refine (Runs.bind_iff_of (tolerate_runs_iff.2 rfl)).2 ?_
    cases escalation with
    | log => exact .done _
    | restart =>
      rw [if_pos rfl]
      have leaves : Runs (Site.mark .stuckTask) [⟨.mark .stuckTask, marked⟩] marked :=
        Runs.request_iff.2 rfl
      refine (Runs.bind_iff_of leaves).2 ?_
      refine (Runs.bind_iff_of (tolerate_runs_iff.2 rfl)).2 ?_
      exact Runs.request_iff.2 rfl

/-- The requests of the handler without what it says. -/
theorem calls_handlingEvents (escalation : Escalation) (task : Stuck)
    (noticed kept marked : Except Fault Unit)
    : calls (handlingEvents escalation task noticed kept marked)
      = [⟨.report (.notice (.stuck task.name task.elapsed)), noticed⟩, ⟨.report .keepLog, kept⟩]
        ++ match escalation with
          | .log => []
          | .restart => [⟨.mark .stuckTask, marked⟩, ⟨.restart .stuckTask, ()⟩] := by
  cases escalation <;>
    simp [handlingEvents, stuckEvents, stuckLine, resetEvents, isSaying, said]

/-- What a patrol asks of its site: the time, reports, and what a restart for a stuck task takes if
the policy says so.
-/
def Patrols (escalation : Escalation) : Request → Prop
  | .now | .report _ => True
  | .mark reason | .restart reason => escalation = .restart ∧ reason = .stuckTask
  | _ => False

theorem now_only {escalation : Escalation}
    : (now : Program Site Stamp).Only (Patrols escalation) :=
  ⟨trivial, fun _ => trivial⟩

theorem report_only {escalation : Escalation} (report : Report)
    : (ask (.report report)).Only (Patrols escalation) :=
  ⟨trivial, fun _ => trivial⟩

theorem tolerate_only {escalation : Escalation} (level : Log.Level) (origin failure : String)
    (answer : Except Fault Unit)
    : (tolerate level origin failure answer : Program Site Unit).Only (Patrols escalation) := by
  cases answer with
  | ok => trivial
  | error => exact ⟨trivial, fun _ => trivial⟩

theorem escalate_only (escalation : Escalation) (task : Stuck)
    : (escalate escalation task).Only (Patrols escalation) := by
  refine .bind (report_only _) fun _ => .bind (report_only _) fun _ => ?_
  refine .bind (tolerate_only ..) fun _ => ?_
  refine .bind (report_only _) fun _ => .bind (tolerate_only ..) fun _ => ?_
  split
  · next restarts =>
    refine .bind ⟨⟨restarts, rfl⟩, fun _ => trivial⟩ fun _ => .bind (tolerate_only ..) fun _ => ?_
    exact ⟨⟨restarts, rfl⟩, fun _ => trivial⟩
  · trivial

theorem Patrol.pass_only {S : Signature} [Clock S] {allowed : S.Request → Prop}
    {handle : Stuck → Program S Unit} (reads : (now : Program S Stamp).Only allowed)
    (each : ∀ task, (handle task).Only allowed) (registry : Registry)
    : (pass handle registry).Only allowed := by
  refine .bind (Registry.stuckAmong_reads reads ..) fun stuck => ?_
  exact .bind (.forM each stuck) fun _ => trivial

-----------------------------------------------------------------------------
-- Passes between what is done to a registry

/-- What happens around a registry: something is done to it, or the patrol passes. -/
inductive Beat where
  | done (deed : Deed)
  | passed (events : List (Event Site)) (count : Nat)

namespace Beat

def deed? : Beat → Option Deed
  | .done deed => some deed
  | .passed .. => none

def events : Beat → List (Event Site)
  | .done deed => deed.events
  | .passed events _ => events

end Beat

/-- What is done to a registry, in order. -/
def deedsOf (beats : List Beat) : List Deed :=
  beats.filterMap Beat.deed?

/-- All that happens around a registry, from one state of it to another. -/
inductive Watch (escalation : Escalation) : Registry → List Beat → Registry → Prop where
  | rest {registry : Registry} : Watch escalation registry [] registry
  | done {registry middle last : Registry} {operation : Operation} {events : List (Event Site)}
      {reply : Reply} {beats : List Beat}
      (ran : Runs (operation.perform registry) events (reply, middle))
      (behind : Watch escalation middle beats last)
      : Watch escalation registry (.done ⟨operation, events, reply⟩ :: beats) last
  | passed {registry last : Registry} {events : List (Event Site)} {count : Nat}
      {beats : List Beat}
      (ran : Runs (Patrol.pass (escalate escalation) registry) events count)
      (behind : Watch escalation registry beats last)
      : Watch escalation registry (.passed events count :: beats) last

variable {escalation : Escalation} {capacity : Nat} {timeout : UInt32}
variable {registry last : Registry} {deeds : List Deed} {beats : List Beat}

/-- What has become of a registry is what was done to it, whatever passes came in between. By
induction over what happened.
-/
theorem Watch.history (watch : Watch escalation registry beats last)
    (history : History capacity timeout deeds registry)
    : History capacity timeout (deeds ++ deedsOf beats) last := by
  induction watch generalizing deeds with
  | rest => rwa [deedsOf, List.filterMap_nil, List.append_nil]
  | done ran _ ih =>
    -- What is done next belongs to the history that the rest of the watch goes on from.
    have longer := ih (history.next ran)
    rwa [List.append_assoc] at longer
  | passed _ _ ih => exact ih history

/-- An entry that is not armed makes no difference to a look for stuck tasks. By induction over the
others.
-/
theorem Registry.stuckAmong_concat {S : Signature} [Clock S] {entry : Entry}
    (disarmed : entry.armedAt = none) (room : Nat) (fallback : UInt32) (entries : List Entry)
    (found : List Stuck)
    : (stuckAmong room fallback (entries ++ [entry]) found : Program S _)
      = stuckAmong room fallback entries found := by
  induction entries generalizing found with
  | nil => simp only [List.nil_append, stuckAmong, disarmed]
  | cons first rest ih =>
    rw [List.cons_append, stuckAmong, stuckAmong]
    cases first.armedAt with
    | none => exact ih found
    | some armedAt => simp only [ih]

/-- Without a start or a stop a look for stuck tasks stays the same, by cases over what is done. -/
theorem Operation.stuck_eq {S : Signature} [Clock S] {operation : Operation}
    {events : List (Event Site)} {reply : Reply} {after : Registry}
    (ran : Runs (operation.perform registry) events (reply, after))
    (aside : ∀ name, Deed.touches ⟨operation, events, reply⟩ name = false)
    : (after.stuck : Program S _) = registry.stuck := by
  cases operation with
  | register name own =>
    obtain ⟨-, ⟨enrolled, -⟩ | ⟨refusal, -, rfl, -⟩⟩ := perform_register_runs_iff.1 ran
    · obtain ⟨-, -, -, rfl⟩ := Registry.register_eq_ok_iff.1 enrolled
      exact Registry.stuckAmong_concat rfl ..
    · rfl
  | check =>
    obtain ⟨rfl, -⟩ := perform_check_runs_iff.1 ran
    rfl
  | start name | stop name => exact absurd (aside name) (by simp [Deed.touches])

/-- As long as nothing is started or stopped a look for stuck tasks stays the same, by induction
over what happens.
-/
theorem Watch.stuck_eq {S : Signature} [Clock S] (watch : Watch escalation registry beats last)
    (aside : ∀ deed ∈ deedsOf beats, ∀ name, deed.touches name = false)
    : (last.stuck : Program S _) = registry.stuck := by
  induction watch with
  | rest => rfl
  | done ran _ ih =>
    obtain ⟨first, others⟩ := List.forall_mem_cons.1 aside
    rw [ih others, Operation.stuck_eq ran first]
  | passed _ _ ih => exact ih aside

/-- Whatever is done to a registry, only the time is asked for and something said. -/
theorem Operation.perform_only (operation : Operation)
    : (operation.perform registry).Only (Patrols escalation) := by
  cases operation with
  | register name own =>
    refine .bind ?_ fun answer => ?_
    · unfold Registry.enroll
      cases registry.register name own with
      | ok enrolled => exact .bind (report_only _) fun _ => trivial
      | error refusal =>
        cases refusal with
        | duplicate => exact .bind (report_only _) fun _ => trivial
        | full | emptyName => trivial
    · cases answer <;> trivial
  | start name =>
    refine .bind ?_ fun _ => trivial
    unfold Registry.start
    split
    · exact ⟨trivial, fun _ => trivial⟩
    · exact .bind (report_only _) fun _ => trivial
  | stop name =>
    refine .bind ?_ fun _ => trivial
    unfold Registry.stop
    split
    · trivial
    · exact .bind (report_only _) fun _ => trivial
  | check =>
    refine .bind ?_ fun _ => trivial
    exact Registry.stuckAmong_reads now_only ..

/-- Nothing else is asked than by a patrol, by induction over what happens. -/
theorem Watch.patrols (watch : Watch escalation registry beats last)
    : ∀ e ∈ beats.flatMap Beat.events, Patrols escalation e.request := by
  induction watch with
  | rest => exact nofun
  | done ran _ ih =>
    intro e member
    rcases List.mem_append.1 member with now | later
    · exact Program.Only.of_runs ran (Operation.perform_only _) e now
    · exact ih e later
  | passed ran _ ih =>
    intro e member
    rcases List.mem_append.1 member with now | later
    · have patrols := Patrol.pass_only now_only (escalate_only escalation)
      exact Program.Only.of_runs ran (patrols _) e now
    · exact ih e later

/-- Where the policy is to log, nothing leaves a marker or restarts, however long the watch is. -/
theorem Watch.unrestarted (watch : Watch .log registry beats last)
    : ∀ e ∈ beats.flatMap Beat.events, ∀ reason,
      e.request ≠ .mark reason ∧ e.request ≠ .restart reason := by
  intro e member reason
  have allowed := watch.patrols e member
  refine ⟨fun same => ?_, fun same => ?_⟩ <;>
  · rw [same] at allowed
    cases allowed.1

-----------------------------------------------------------------------------
-- What a pass reports

/-- Names are reported in the order of the armed names, by induction over these. -/
theorem overdue_sublist (fallback : UInt32) (tasks : List Armed) (readings : List Stamp)
    : ((overdue fallback tasks readings).map Stuck.name).Sublist (tasks.map Armed.name) := by
  induction tasks generalizing readings with
  | nil => exact .slnil
  | cons task rest ih =>
    cases readings with
    | nil => simp [overdue]
    | cons reading readings =>
      rw [overdue_cons, List.map_append, List.map_cons]
      cases due : task.overdue? fallback reading with
      | none => exact (ih readings).cons _
      | some report =>
        rw [Option.toList_some, List.map_singleton, Armed.name_of_overdue? due]
        exact (ih readings).cons_cons _

theorem armedTasks_sublist (deeds : List Deed)
    : ((armedTasks deeds).map Armed.name).Sublist ((roster deeds).map Prod.fst) := by
  unfold armedTasks
  induction roster deeds with
  | nil => exact .slnil
  | cons member rest ih =>
    obtain ⟨name, own⟩ := member
    simp only [List.filterMap_cons, List.map_cons]
    cases lastStamp name deeds with
    | none => exact ih.cons _
    | some time => exact ih.cons_cons _

/-- Names are reported in the order of their registration. -/
theorem Remembers.overdue_sublist (remembers : Remembers capacity timeout deeds registry)
    (readings : List Stamp)
    : ((overdue timeout (armedTasks deeds) readings).map Stuck.name).Sublist registry.names := by
  rw [remembers.names_eq]
  exact (Liveness.overdue_sublist ..).trans (armedTasks_sublist deeds)

/-- A pass hands the tasks that are overdue to its handler, one after the other. -/
theorem Remembers.pass_runs_iff (remembers : Remembers capacity timeout deeds registry)
    {handle : Stuck → Program Site Unit} {events : List (Event Site)} {count : Nat}
    : Runs (Patrol.pass handle registry) events count
      ↔ ∃ (readings : List Stamp) (handled : List (Stuck × List (Event Site))),
        readings.length = (armedTasks deeds).length
        ∧ handled.map Prod.fst = overdue timeout (armedTasks deeds) readings
        ∧ (∀ task asked, (task, asked) ∈ handled → Runs (handle task) asked ())
        ∧ events = Registry.readEvents readings ++ (handled.map Prod.snd).flatten
        ∧ count = handled.length := by
  rw [Patrol.pass_runs_iff]
  constructor
  · intro h
    obtain ⟨looking, handled, ⟨looks, handles⟩, rfl, rfl⟩ := h
    obtain ⟨readings, length, rfl, found⟩ := remembers.stuck_runs_iff.1 looks
    exact ⟨readings, handled, length, found, handles, rfl, rfl⟩
  · intro h
    obtain ⟨readings, handled, length, found, handles, rfl, rfl⟩ := h
    have looks := remembers.stuck_runs_iff.2 ⟨readings, length, rfl, found⟩
    exact ⟨_, handled, ⟨looks, handles⟩, rfl, rfl⟩

end Caretaker.Liveness
