import Caretaker.Proofs.Device.Staging
import Caretaker.Proofs.Liveness.Escalation
import Caretaker.Proofs.Liveness.Promptness

/-!
Stuck tasks on the device. If the policy says so, the first of them restarts it, however its
evidence is taken, and none of the others is handled. Else none of them does anything but report.
-/

namespace Caretaker.Device

open Liveness
open Liveness.Registry (readEvents)

variable {width : Width} {policy : Policy} {task : Stuck} {events : List (Event Platform)}

-----------------------------------------------------------------------------
-- Looks for stuck tasks

/-- A look for stuck tasks on the device is one at its site, by induction over the entries. -/
theorem stuckAmong_realize (width : Width) (backend : Provision.Backend) (room : Nat)
    (fallback : UInt32) (entries : List Liveness.Entry) (found : List Stuck)
    : (Registry.stuckAmong room fallback entries found : Program Site _).realize
        (site width backend)
      = Registry.stuckAmong room fallback entries found := by
  induction entries generalizing found with
  | nil => rfl
  | cons entry rest ih =>
    rw [Registry.stuckAmong, Registry.stuckAmong]
    cases entry.armedAt with
    | none => exact ih found
    | some armedAt => exact congrArg (Program.ask Request.now) (funext fun reading => ih _)

theorem met_readEvents_iff {backend : Provision.Backend} {readings : List Stamp}
    : Met (site width backend) (readEvents readings) events
      ↔ events = readings.map (⟨.now, ·⟩) := by
  induction readings generalizing events with
  | nil => exact Met.nil_iff
  | cons reading rest ih =>
    refine Met.cons_iff.trans ?_
    constructor
    · intro h
      obtain ⟨first, others, rfl, read, met⟩ := h
      obtain rfl := Runs.request_iff.1 read
      obtain rfl := ih.1 met
      rfl
    · intro same
      exact ⟨[⟨.now, reading⟩], _, same, Runs.request_iff.2 rfl, ih.2 rfl⟩

/-- A look for stuck tasks on the device reads its clock for each armed name. -/
theorem stuck_runs_iff {capacity : Nat} {timeout : UInt32} {deeds : List Deed}
    {registry : Registry} {tasks : List Stuck}
    (remembers : Remembers capacity timeout deeds registry)
    : Runs (registry.stuck : Program Platform _) events tasks
      ↔ ∃ readings : List Stamp, readings.length = (armedTasks deeds).length
        ∧ events = readings.map (⟨.now, ·⟩)
        ∧ tasks = overdue timeout (armedTasks deeds) readings := by
  have same : (registry.stuck : Program Site _).realize (site .bits32 {}) = registry.stuck :=
    stuckAmong_realize ..
  rw [← same, Runs.realize_iff]
  constructor
  · intro h
    obtain ⟨asked, looks, met⟩ := h
    obtain ⟨readings, length, rfl, rfl⟩ := remembers.stuck_runs_iff.1 looks
    exact ⟨readings, length, met_readEvents_iff.1 met, rfl⟩
  · intro h
    obtain ⟨readings, length, rfl, rfl⟩ := h
    have looks := remembers.stuck_runs_iff.2 ⟨readings, length, rfl, rfl⟩
    exact ⟨_, looks, met_readEvents_iff.2 rfl⟩

-----------------------------------------------------------------------------
-- The restart

/-- What is asked about a stuck task up to the restart. -/
def lastEvents (task : Stuck) (noticed kept marked : Except Fault Unit) : List (Event Site) :=
  stuckEvents task noticed kept
    ++ ⟨.mark .stuckTask, marked⟩
      :: Site.complaint .error Registry.origin "Failed to persist reboot marker" marked

theorem handlingEvents_eq (task : Stuck) (noticed kept marked : Except Fault Unit)
    : handlingEvents .restart task noticed kept marked
      = lastEvents task noticed kept marked ++ [⟨.restart .stuckTask, ()⟩] := by
  simp [handlingEvents, resetEvents, lastEvents]

/-- A stuck task that is to restart the device is never done with. -/
theorem endless_handle (restarts : policy.escalation = .restart) (task : Stuck)
    : (handle width policy task).Endless := by
  intro events ⟨⟩ ran
  obtain ⟨asked, went, met⟩ := Runs.realize_iff.1 ran
  rw [restarts] at went
  obtain ⟨noticed, kept, marked, rfl⟩ := escalate_runs_iff.1 went
  rw [handlingEvents_eq] at met
  obtain ⟨way, ended, -⟩ :=
    met.exists_of_mem _ (List.mem_append_right _ (List.mem_singleton_self _))
  exact not_runs_restart ended

theorem restart_not_mem_lastEvents (noticed kept marked : Except Fault Unit)
    (reason : Reset.Reason)
    : ⟨.restart reason, ()⟩ ∉ lastEvents task noticed kept marked := by
  cases noticed <;> cases kept <;> cases marked <;>
    simp [lastEvents, stuckEvents, stuckLine, Site.complaint, Site.said]

/-- The handling of a stuck task comes to its end with the restart, when all else has been asked. -/
theorem asks_handle (restarts : policy.escalation = .restart) {r : Request}
    (asks : Asks (handle width policy task) events r) (final : r.kind = .final)
    : r = .call .reboot ∧ ∃ noticed kept marked way,
      Met (site width {}) (lastEvents task noticed kept marked) way
      ∧ events = way ++ restartEvents .stuckTask := by
  obtain ⟨asked, question, way, behind, rfl, went, met, last⟩ := Asks.realize_iff.1 asks
  by_cases restart : ∃ reason, question = .restart reason
  · obtain ⟨reason, rfl⟩ := restart
    obtain ⟨rfl, rfl⟩ := asks_restart final last
    obtain ⟨rest, ⟨⟩, whole⟩ := went.completes ()
    rw [restarts] at whole
    obtain ⟨noticed, kept, marked, same⟩ := escalate_runs_iff.1 whole
    rw [handlingEvents_eq] at same
    rcases List.eq_nil_or_concat rest with rfl | ⟨others, e, rfl⟩
    · obtain ⟨rfl, ended⟩ := List.append_inj' same rfl
      cases ended
      exact ⟨rfl, noticed, kept, marked, way, met, rfl⟩
    · -- The restart is the last thing that is asked, so nothing can be behind it.
      rw [List.concat_eq_append, ← List.cons_append, ← List.append_assoc] at same
      obtain ⟨before, -⟩ := List.append_inj' same rfl
      have member : ⟨.restart reason, ()⟩ ∈ lastEvents task noticed kept marked := by
        rw [← before]
        exact List.mem_append_right _ (List.mem_cons_self ..)
      exact absurd member (restart_not_mem_lastEvents noticed kept marked reason)
  · have lasts : (site width {} question).Only _ := site_lasts (not_exists.1 restart)
    exact absurd final (Program.Only.of_asks last lasts)

/-- However the platform answers, the handling of a stuck task comes to the restart, as long as it
answers what has an answer.
-/
theorem pursue_handle (restarts : policy.escalation = .restart)
    {answer : List (Event Platform) → (r : Request) → Option (Answer r)}
    (answers : ∀ past r, answer past r = none → r.kind = .final) (past : List (Event Platform))
    : ((handle width policy task).pursue answer past).2 = .inr (.call .reboot) := by
  cases ending : ((handle width policy task).pursue answer past).2 with
  | inl done => exact absurd (Runs.pursue ending) (endless_handle restarts task _ _)
  | inr r =>
    obtain ⟨before, unanswered⟩ := Program.exists_unanswered ending
    obtain ⟨rfl, -⟩ := asks_handle restarts (Asks.pursue ending) (answers before r unanswered)
    rfl

-----------------------------------------------------------------------------
-- The patrol

/-- What a patrol asks of the platform. Only a restart takes more than the clock, the shared
registry and reports, and nothing puts another registry in place.
-/
def Patrolling (policy : Policy) : Request → Prop
  | .now | .report _ | .pause _ | .registry => True
  | .call _ => policy.escalation = .restart
  | _ => False

theorem only_patrolling (width : Width) (policy : Policy) (isNew : Bool)
    : (job width (.patrol isNew policy)).Only (Patrolling policy) := by
  have single {r : Request} (allowed : Patrolling policy r) : (ask r).Only (Patrolling policy) :=
    Program.Only.request_iff.2 allowed
  have meets (r : Site.Request) (patrols : Patrols policy.escalation r)
      : (site width {} r).Only (Patrolling policy) := by
    cases r with
    | now | report => exact single trivial
    | mark reason =>
      refine only_faultOf (.except_bind (only_sure (single trivial)) fun _ => ?_)
      exact only_trying (single patrols.1)
    | restart reason =>
      have warns : Patrolling policy
          (.report (.say ⟨.warn, some "restart", "Restarting: " ++ reason.tag⟩)) :=
        trivial
      refine .bind (.bind (single warns) fun _ => ?_) fun nothing => nothing.elim
      exact .bind (single patrols.1) fun _ => single patrols.1
    | isOnline | setting | join | check | install | light => exact patrols.elim
  have handles (task : Stuck) : (handle width policy task).Only (Patrolling policy) :=
    (escalate_only policy.escalation task).realize meets
  have reads : (now : Program Platform Stamp).Only (Patrolling policy) :=
    ⟨trivial, fun _ => trivial⟩
  have looks : (Tasks.registry : Program Platform Registry).Only (Patrolling policy) :=
    ⟨trivial, fun _ => trivial⟩
  have rounds
      : (Patrol.round (handle width policy) policy.patrolMillis.toNat).Only
          (Patrolling policy) := by
    have pauses : (Tasks.pause policy.patrolMillis.toNat : Program Platform Unit).Only
        (Patrolling policy) :=
      ⟨trivial, fun _ => trivial⟩
    refine .bind pauses fun _ => .bind looks fun registry => ?_
    exact .bind (Patrol.pass_only reads handles registry) fun _ => trivial
  have announces
      : (Patrol.announce policy.patrolMillis.toNat : Program Platform Unit).Only
          (Patrolling policy) :=
    .bind looks fun _ => ⟨trivial, fun _ => trivial⟩
  cases isNew with
  | false => exact .bind rounds fun _ => trivial
  | true => exact .bind announces fun _ => .bind rounds fun _ => trivial

/-- A pass that finds tasks stuck and is to restart the device handles the first of them and comes
to nothing else.
-/
structure RestartsFirst (width : Width) (policy : Policy) (registry : Registry)
    (looking : List (Event Platform)) (task : Stuck) : Prop where
  /-- The pass does not return. -/
  endless : ∀ rest count,
    ¬ Runs (Patrol.pass (handle width policy) registry) (looking ++ rest) count
  /-- All that is asked behind the look for stuck tasks is about the first one. -/
  handled : ∀ rest r, Asks (Patrol.pass (handle width policy) registry) (looking ++ rest) r
    ↔ Asks (handle width policy task) rest r
  /-- Nothing but the restart ends it, when all the rest has been asked. -/
  last : ∀ rest r, Asks (handle width policy task) rest r → r.kind = .final
    → r = .call .reboot ∧ ∃ noticed kept marked way,
      Met (site width {}) (lastEvents task noticed kept marked) way
      ∧ rest = way ++ restartEvents .stuckTask
  /-- However the platform answers, the restart is reached. -/
  reached : ∀ answer : List (Event Platform) → (r : Request) → Option (Answer r),
    (∀ past r, answer past r = none → r.kind = .final)
    → ∀ past, ((handle width policy task).pursue answer past).2 = .inr (.call .reboot)

theorem restartsFirst {registry : Registry} {looking : List (Event Platform)} {others : List Stuck}
    (restarts : policy.escalation = .restart)
    (looks : Runs (registry.stuck : Program Platform _) looking (task :: others))
    : RestartsFirst width policy registry looking task where
  endless rest count ran := by
    have endless : (handle width policy task).Endless := endless_handle restarts task
    exact (endless.bind _).bind _ rest count ((Runs.bind_iff_of looks).1 ran)
  handled rest r := by
    have endless : (handle width policy task).Endless := endless_handle restarts task
    refine (Asks.bind_iff_of looks).trans ?_
    exact (endless.bind _).asks_bind_iff.trans endless.asks_bind_iff
  last _ _ asks final := asks_handle restarts asks final
  reached _ answers past := pursue_handle restarts answers past

/-- The escalation of stuck tasks, whatever has happened around the registry. What has become of it
is what was done to it, passes change nothing about it. A pass hands each task that is reported to
the handler, once and in the order of registration, and tells how many there are. A caretaker asks
for the same about each of them, whatever the answers: a notice, the log to be set aside and, if and
only if the policy says so, the marker and the restart. As long as nothing is started or stopped,
the same readings of the clock give the same tasks again.

Without a restart in the policy no marker is left and nothing restarts, however long the watch is.
With one, a pass on the device that finds tasks stuck handles the first of them and restarts.
-/
theorem stuck_tasks_are_escalated {capacity : Nat} {timeout : UInt32} {beats : List Beat}
    {registry : Registry} (watch : Watch policy.escalation { capacity, timeout } beats registry)
    : let deeds := deedsOf beats
      let tasks := armedTasks deeds
      History capacity timeout deeds registry
      ∧ (∀ readings,
        ((overdue timeout tasks readings).map Stuck.name).Sublist registry.names)
      ∧ (∀ handle events count,
        Runs (Patrol.pass handle registry : Program Site Nat) events count
          ↔ ∃ (readings : List Stamp) (handled : List (Stuck × List (Event Site))),
            readings.length = tasks.length
            ∧ handled.map Prod.fst = overdue timeout tasks readings
            ∧ (∀ task asked, (task, asked) ∈ handled → Runs (handle task) asked ())
            ∧ events = readEvents readings ++ (handled.map Prod.snd).flatten
            ∧ count = handled.length)
      ∧ (∀ task asked,
        Runs (escalate policy.escalation task) asked ()
          ↔ ∃ noticed kept marked,
            asked = handlingEvents policy.escalation task noticed kept marked)
      ∧ (∀ task noticed kept marked,
        Cycle.calls (handlingEvents policy.escalation task noticed kept marked)
          = [⟨.report (.notice (.stuck task.name task.elapsed)), noticed⟩,
              ⟨.report .keepLog, kept⟩]
            ++ match policy.escalation with
              | .log => []
              | .restart => [⟨.mark .stuckTask, marked⟩, ⟨.restart .stuckTask, ()⟩])
      ∧ (∀ more last, Watch policy.escalation registry more last
        → (∀ deed ∈ deedsOf more, ∀ name, deed.touches name = false)
        → ∀ looking found, Runs (last.stuck : Program Site _) looking found
          ↔ Runs (registry.stuck : Program Site _) looking found)
      ∧ (policy.escalation = .log
        → ∀ e ∈ beats.flatMap Beat.events, ∀ reason,
          e.request ≠ .mark reason ∧ e.request ≠ .restart reason)
      ∧ (∀ width isNew, (job width (.patrol isNew policy)).Only fun r : Request =>
        (∀ other, r ≠ .replace other)
        ∧ (policy.escalation = .log → ∀ call, r ≠ .call call))
      ∧ (policy.escalation = .restart
        → ∀ (readings : List Stamp) task others, readings.length = tasks.length
        → overdue timeout tasks readings = task :: others
        → ∀ width, RestartsFirst width policy registry (readings.map (⟨.now, ·⟩)) task) := by
  intro deeds tasks
  have history : History capacity timeout deeds registry := watch.history .fresh
  have remembers := history.remembers
  refine ⟨history, remembers.overdue_sublist, fun _ _ _ => remembers.pass_runs_iff,
    fun _ _ => escalate_runs_iff, calls_handlingEvents _, ?again, ?unrestarted, ?patrols,
    ?restarted⟩
  case again =>
    intro more last longer aside looking found
    rw [longer.stuck_eq aside]
  case unrestarted =>
    intro logs
    rw [logs] at watch
    exact watch.unrestarted
  case patrols =>
    intro width isNew
    refine (only_patrolling width policy isNew).mono fun r patrols => ⟨?_, ?_⟩
    · intro other same
      rw [same] at patrols
      exact patrols
    · intro logs call same
      rw [same] at patrols
      cases logs.symm.trans patrols
  case restarted =>
    intro restarts readings task others length found width
    have looks := (stuck_runs_iff remembers).2 ⟨readings, length, rfl, found.symm⟩
    exact restartsFirst restarts looks

/-- Of a pump and a fan that are both stuck, the pump restarts the device, and the fan is not
handled. Where the policy is to log, a pass over them restarts nothing.
-/
theorem stuck_tasks_are_escalated_two
    : ∃ beats registry events count,
      Watch .restart { capacity := 2, timeout := 100 } beats registry
      ∧ Watch .log { capacity := 2, timeout := 100 } (beats ++ [Beat.passed events count]) registry
      ∧ RestartsFirst .bits32 { escalation := .restart } registry
          [⟨.now, (204 : Stamp)⟩, ⟨.now, (204 : Stamp)⟩] ⟨"pump", 500, 100⟩
      ∧ ∀ e ∈ (beats ++ [Beat.passed events count]).flatMap Beat.events, ∀ reason,
        e.request ≠ .mark reason ∧ e.request ≠ .restart reason := by
  have task (operation : Operation) (registry : Registry) :=
    Runs.follow (S := Site) (clockAt 4294967000) (operation.perform registry)
  have pass (registry : Registry) :=
    Runs.follow (S := Site) (clockAt 4294967500) (Patrol.pass (escalate .log) registry)
  have restarting : Watch .restart { capacity := 2, timeout := 100 } _ _ :=
    .done (task (.register "pump" none) _) (.done (task (.register "fan" none) _)
      (.done (task (.start "pump") _) (.done (task (.start "fan") _) .rest)))
  have logging : Watch .log { capacity := 2, timeout := 100 } _ _ :=
    .done (task (.register "pump" none) _) (.done (task (.register "fan" none) _)
      (.done (task (.start "pump") _) (.done (task (.start "fan") _) (.passed (pass _) .rest))))
  obtain ⟨-, -, -, -, -, -, -, -, restarts⟩ :=
    @stuck_tasks_are_escalated { escalation := .restart } _ _ _ _ restarting
  obtain ⟨-, -, -, -, -, -, unrestarted, -⟩ :=
    @stuck_tasks_are_escalated { escalation := .log } _ _ _ _ logging
  have first := restarts rfl [204, 204] ⟨"pump", 500, 100⟩ [⟨"fan", 500, 100⟩] rfl rfl .bits32
  exact ⟨_, _, _, _, restarting, logging, first, unrestarted rfl⟩

end Caretaker.Device
