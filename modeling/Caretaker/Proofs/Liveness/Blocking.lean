import Caretaker.Proofs.Liveness.Enrollment
import Caretaker.Proofs.Liveness.Promptness
import Caretaker.Proofs.Liveness.Visits
import Mathlib.Data.List.Nodup

/-!
What a look for stuck tasks tells about the canary. It is reported while it has been under way for
longer than its timeout, which takes somebody who keeps it from its lock, and in no other case.
-/

namespace Caretaker.Liveness

variable {capacity : Nat} {timeout : UInt32} {deeds : List Deed} {registry : Registry}
variable {time : Nat}

-----------------------------------------------------------------------------
-- Reports and entries

theorem Registry.find?_of_mem {entry : Entry} (distinct : registry.names.Nodup)
    (member : entry ∈ registry.entries)
    : registry.find? entry.name = some entry := by
  have isKnown : (registry.find? entry.name).isSome :=
    find?_isSome_iff.2 (List.mem_map_of_mem member)
  obtain ⟨other, found⟩ := Option.isSome_iff_exists.1 isKnown
  have same : other = entry :=
    List.inj_on_of_nodup_map distinct (List.mem_of_find?_eq_some found) member (name_of_find? found)
  rw [found, same]

/-- A look for stuck tasks at one time finds what the armed entries say about themselves then. -/
theorem Remembers.mem_found_iff {looking : List (Event Site)} {found : List Stuck} {report : Stuck}
    (remembers : Remembers capacity timeout deeds registry)
    (looks : Runs (registry.stuck : Program Site _) looking found)
    (atOnce : ∀ e ∈ looking, e = ⟨.now, Stamp.ofMillis time⟩)
    : report ∈ found
      ↔ ∃ entry armedAt, registry.find? report.name = some entry
        ∧ entry.armedAt = some armedAt
        ∧ entry.stuck? timeout armedAt (Stamp.ofMillis time) = some report := by
  have distinct : registry.names.Nodup := by
    rw [remembers.names_eq]
    exact remembers.distinct
  rw [remembers.found_at looks atOnce, List.mem_filterMap]
  constructor
  · intro h
    obtain ⟨task, isArmed, due⟩ := h
    have inRegistry : (task.entry, task.startedAt) ∈ Registry.armed registry.entries := by
      rw [remembers.armed_eq]
      exact List.mem_map_of_mem isArmed
    obtain ⟨entry, member, stamped⟩ := List.mem_filterMap.1 inRegistry
    obtain ⟨armedAt, -, same⟩ := Option.map_eq_some_iff.1 stamped
    cases same
    refine ⟨task.entry, task.startedAt, ?_, rfl, (task.stuck?_entry ..).trans due⟩
    rw [Armed.name_of_overdue? due]
    exact Registry.find?_of_mem distinct member
  · intro h
    obtain ⟨entry, armedAt, isEntry, isArmed, due⟩ := h
    have inRegistry : (entry, armedAt) ∈ Registry.armed registry.entries :=
      List.mem_filterMap.2 ⟨entry, List.mem_of_find?_eq_some isEntry, by rw [isArmed]; rfl⟩
    rw [remembers.armed_eq] at inRegistry
    obtain ⟨task, isTask, same⟩ := List.mem_map.1 inRegistry
    cases same
    exact ⟨task, isTask, (task.stuck?_entry ..).symm.trans due⟩

/-- For the stamps of true times less than half the range of the clock apart, a report is due if
more than the timeout lies between them.
-/
theorem Entry.stuck?_ofMillis {entry : Entry} {fallback : UInt32} {armedAt now : Nat}
    (ordered : armedAt ≤ now) (short : now - armedAt < UInt32.size / 2)
    : entry.stuck? fallback (.ofMillis armedAt) (.ofMillis now)
      = if (entry.timeout.getD fallback).toNat < now - armedAt then
          some ⟨entry.name, .ofNat (now - armedAt), entry.timeout.getD fallback⟩
        else
          none := by
  have elapsed : (Stamp.since (.ofMillis armedAt) (.ofMillis now)).toNat = now - armedAt :=
    Stamp.since_ofMillis ordered (Nat.lt_trans short (by decide))
  have isTime : Stamp.since (.ofMillis armedAt) (.ofMillis now) = .ofNat (now - armedAt) := by
    rw [← elapsed, UInt32.ofNat_toNat]
  have near : now - armedAt ≤ 0x7fffffff := Nat.le_of_lt_succ short
  rw [stuck?_eq, elapsed, isTime]
  simp only [near, and_true]

-----------------------------------------------------------------------------
-- What the canary leaves in the history

theorem History.exists_arm (history : History capacity timeout deeds registry) (name : String)
    (time : Stamp)
    : ∃ deeds, History capacity timeout deeds (registry.arm name time) := by
  cases found : registry.find? name with
  | none =>
    rw [Registry.arm, Registry.modify_of_find?_eq_none found]
    exact ⟨deeds, history⟩
  | some entry =>
    have started := Registry.start_runs_iff.2 (.inl ⟨by rw [found]; rfl, rfl, time, rfl, rfl⟩)
    exact ⟨_, history.next (Operation.perform_start_runs_iff.2 ⟨true, rfl, started⟩)⟩

theorem History.exists_disarm (history : History capacity timeout deeds registry) (name : String)
    : ∃ deeds, History capacity timeout deeds (registry.disarm name) := by
  cases found : registry.find? name with
  | none =>
    rw [Registry.disarm, Registry.modify_of_find?_eq_none found]
    exact ⟨deeds, history⟩
  | some entry =>
    have stopped := Registry.stop_runs_iff.2 (.inl ⟨by rw [found]; rfl, rfl, rfl, rfl⟩)
    exact ⟨_, history.next (Operation.perform_stop_runs_iff.2 ⟨true, rfl, stopped⟩)⟩

namespace Canary

variable {first scene after : Scene} {happenings : List Happening} {happening : Happening}

/-- Whatever happens next goes into the history of the registry, by cases over what happens. -/
theorem Step.history (step : Step scene happening after)
    (history : History capacity timeout deeds scene.registry)
    : ∃ deeds, History capacity timeout deeds after.registry := by
  cases step with
  | moves moved =>
    obtain ⟨setting, stage⟩ := scene
    rw [Scene.moved?_eq] at moved
    cases stage with
    | away =>
      cases moved
      exact history.exists_arm ..
    | waiting since =>
      dsimp only at moved
      split at moved
      · cases moved
        exact ⟨deeds, history⟩
      · cases moved
    | holding since =>
      cases moved
      exact ⟨deeds, history⟩
    | leaving since =>
      cases moved
      exact history.exists_disarm ..
  | takes | returns | fails | elapses => exact ⟨deeds, history⟩
  | does aside ran timed => exact ⟨_, history.next ran⟩

/-- All that happens goes into the history of the registry, by induction over what happens. -/
theorem Course.history (course : Course first happenings scene)
    (history : History capacity timeout deeds first.registry)
    : ∃ deeds, History capacity timeout deeds scene.registry := by
  induction course with
  | still => exact ⟨deeds, history⟩
  | next _ step ih =>
    obtain ⟨earlier, history⟩ := ih
    exact step.history history

/-- A look for stuck tasks leaves the scene as it is, and reads nothing but the present time. -/
theorem Step.looks {events : List (Event Site)} {found : List Stuck}
    (step : Step scene (.done ⟨.check, events, .found found⟩) after)
    : after = scene ∧ Runs (scene.registry.stuck : Program Site _) events found
      ∧ ∀ e ∈ events, e = ⟨.now, Stamp.ofMillis scene.time⟩ := by
  cases step with
  | does aside ran timed =>
    obtain ⟨rfl, stuck, same, looks⟩ := Operation.perform_check_runs_iff.1 ran
    cases same
    refine ⟨rfl, looks, fun e member => ?_⟩
    have isReading := Program.Only.of_runs looks (Registry.stuckAmong_only ..) e member
    obtain ⟨r, reading⟩ := e
    cases isReading
    exact congrArg (Event.mk (S := Site) Site.Request.now) (timed reading member)

/-- A look for stuck tasks is possible at every moment. -/
theorem Scene.exists_looks (scene : Scene)
    : ∃ events found, Step scene (.done ⟨.check, events, .found found⟩) scene := by
  have looks := Runs.follow (S := Site) (clockAt scene.time) scene.registry.stuck
  have ran := Operation.perform_check_runs_iff.2 ⟨rfl, _, rfl, looks⟩
  refine ⟨_, _, .does trivial ran fun reading member => ?_⟩
  cases scene.registry.mem_follow_stuck scene.time _ member
  rfl

/-- The canary is reported by a look for stuck tasks if it has been under way for longer than its
timeout by then, with the true time that has gone by.
-/
theorem Scene.Tells.reported_iff {entry : Entry} {events : List (Event Site)} {found : List Stuck}
    {report : Stuck} (tells : scene.Tells (some entry))
    (history : History capacity timeout deeds scene.registry)
    (step : Step scene (.done ⟨.check, events, .found found⟩) after)
    : report ∈ found ∧ report.name = name
      ↔ ∃ since ∈ scene.stage.since?,
        (entry.timeout.getD timeout).toNat < scene.time - since
        ∧ report = ⟨name, .ofNat (scene.time - since), entry.timeout.getD timeout⟩ := by
  obtain ⟨-, looks, atOnce⟩ := step.looks
  have isEntry := tells.entry
  rw [Option.map_some] at isEntry
  have called := Registry.name_of_find? isEntry
  dsimp only at called
  have due (since : Nat) (underWay : since ∈ scene.stage.since?)
      : Entry.stuck? { entry with armedAt := scene.stage.since?.map Stamp.ofMillis } timeout
          (.ofMillis since) (.ofMillis scene.time)
        = if (entry.timeout.getD timeout).toNat < scene.time - since then
            some ⟨name, .ofNat (scene.time - since), entry.timeout.getD timeout⟩
          else
            none := by
    obtain ⟨ordered, short⟩ := tells.recent since underWay
    rw [Entry.stuck?_ofMillis ordered short, called]
  rw [history.remembers.mem_found_iff looks atOnce]
  constructor
  · intro h
    obtain ⟨⟨armed, armedAt, isArmed, stamped, isReport⟩, isName⟩ := h
    rw [isName, isEntry] at isArmed
    cases isArmed
    obtain ⟨since, underWay, rfl⟩ := Option.map_eq_some_iff.1 stamped
    rw [due since underWay] at isReport
    split at isReport
    · cases isReport
      exact ⟨since, underWay, ‹_›, rfl⟩
    · cases isReport
  · intro h
    obtain ⟨since, underWay, late, rfl⟩ := h
    refine ⟨⟨_, _, isEntry, ?_, (due since underWay).trans (if_pos late)⟩, rfl⟩
    rw [Option.mem_def.1 underWay, Option.map_some]

/-- The canary is never reported without an entry of its own. -/
theorem Scene.Tells.not_reported {events : List (Event Site)} {found : List Stuck}
    (tells : scene.Tells none) (history : History capacity timeout deeds scene.registry)
    (step : Step scene (.done ⟨.check, events, .found found⟩) after)
    : ∀ report ∈ found, report.name ≠ name := by
  intro report member isName
  obtain ⟨-, looks, atOnce⟩ := step.looks
  obtain ⟨entry, -, isEntry, -⟩ := (history.remembers.mem_found_iff looks atOnce).1 member
  rw [isName, tells.entry] at isEntry
  cases isEntry

theorem Scene.Tells.state?_eq {initial : Option Entry} (tells : scene.Tells initial)
    : scene.registry.state? name
      = initial.map fun _ => if scene.stage = .away then .disarmed else .armed := by
  rw [Registry.state?, tells.entry, Option.map_map]
  refine congrArg (Option.map · initial) (funext fun entry => ?_)
  cases scene.stage <;> simp [Entry.state, Stage.since?]

/-- The lock is free for the canary unless somebody else holds it. -/
theorem Scene.Tells.finishes {initial : Option Entry} (tells : scene.Tells initial)
    (free : scene.lock.holder ≠ some .other)
    : scene.Finishes := by
  have holds := tells.holds
  have unheld (elsewhere : ∀ since, scene.stage ≠ .holding since) : scene.lock.holder = none := by
    cases isHeld : scene.lock.holder with
    | none => rfl
    | some party =>
      cases party with
      | canary =>
        obtain ⟨since, isHolding⟩ := holds.1 isHeld
        exact absurd isHolding (elsewhere since)
      | other => exact absurd isHeld free
  cases isStage : scene.stage with
  | away => exact finishes_of_away isStage (unheld fun since => by simp [isStage])
  | waiting since => exact finishes_of_waiting isStage (unheld fun since => by simp [isStage])
  | holding since => exact finishes_of_holding isStage
  | leaving since => exact finishes_of_leaving isStage

-----------------------------------------------------------------------------
-- Whole courses

/-- The entry of the canary tells where it is, whatever happens around it. The entry is armed during
a visit and at no other time, and a look for stuck tasks reports the canary just if the visit that
is under way began longer ago than the timeout. The canary is kept from its next move only while it
waits for a lock that somebody holds. As long as nobody else holds the lock, a visit can be
finished, also if somebody has failed with it. All of this holds for a canary that is not registered
too, but that it has no entry and is never reported. By what holds of a scene all along.
-/
theorem entry_follows_visits (history : History capacity timeout deeds first.registry)
    (begins : first.Begins) (course : Course first happenings scene)
    : (∀ entry, first.registry.find? name = some entry
        → (scene.registry.state? name = some .armed ↔ scene.stage ≠ .away)
          ∧ (scene.registry.state? name = some .disarmed ↔ scene.stage = .away)
          ∧ ∀ events found after, Step scene (.done ⟨.check, events, .found found⟩) after
            → after = scene
              ∧ ∀ report, report ∈ found ∧ report.name = name
                ↔ ∃ since ∈ scene.stage.since?,
                  (entry.timeout.getD timeout).toNat < scene.time - since
                  ∧ report = ⟨name, .ofNat (scene.time - since), entry.timeout.getD timeout⟩)
      ∧ (first.registry.find? name = none
        → scene.registry.state? name = none
          ∧ ∀ events found after, Step scene (.done ⟨.check, events, .found found⟩) after
            → ∀ report ∈ found, report.name ≠ name)
      ∧ (∃ events found, Step scene (.done ⟨.check, events, .found found⟩) scene)
      ∧ ((∃ after, Step scene .moved after)
        ↔ ((∃ since, scene.stage = .waiting since) → scene.lock.holder = none))
      ∧ (∀ after, Step scene .moved after → after.stage = .away
        → after.registry.state? name = (first.registry.find? name).map fun _ => .disarmed)
      ∧ (scene.lock.holder ≠ some .other → scene.Finishes) := by
  obtain ⟨all, history⟩ := course.history history
  have tells := course.tells begins
  refine ⟨?registered, ?unregistered, scene.exists_looks, ?moves, ?leaves, tells.finishes⟩
  case registered =>
    intro entry isEntry
    rw [isEntry] at tells
    refine ⟨?_, ?_, fun events found after step => ⟨step.looks.1, fun report => ?_⟩⟩
    · rw [tells.state?_eq, Option.map_some]
      split <;> simp [*]
    · rw [tells.state?_eq, Option.map_some]
      split <;> simp [*]
    · exact tells.reported_iff history step
  case unregistered =>
    intro new
    rw [new] at tells
    exact ⟨tells.state?_eq, fun events found after => tells.not_reported history⟩
  case moves =>
    rw [← Scene.moved?_isSome_iff, Option.isSome_iff_exists]
    constructor
    · intro h
      obtain ⟨after, step⟩ := h
      cases step with
      | moves moved => exact ⟨after, moved⟩
    · intro h
      obtain ⟨after, moved⟩ := h
      exact ⟨after, .moves moved⟩
  case leaves =>
    intro after step isAway
    rw [(tells.next step).state?_eq, isAway]
    rfl

/-- The canary is reported while somebody else holds its lock as the clock starts over, and once
this one has failed it goes on to the end of its visit.
-/
theorem entry_follows_visits_failed
    : ∃ deeds first scene, History 1 100 deeds first.registry ∧ first.Begins
      ∧ Course first [.taken, .moved, .elapsed 500] scene
      ∧ scene.registry.state? name = some .armed
      ∧ (∃ events found, Step scene (.done ⟨.check, events, .found found⟩) scene
        ∧ ⟨name, 500, 100⟩ ∈ found)
      ∧ ∃ after, Step scene .failed after ∧ after.lock.isPoisoned = true ∧ after.Finishes := by
  let line := Site.said .debug Registry.origin "Task watchdog 'example_task' registered"
  let registered : Deed := ⟨.register name none, [line], .registered (.ok ())⟩
  have isNew : Registry.register ⟨1, 100, []⟩ name none = .ok ⟨1, 100, [⟨name, none, none⟩]⟩ :=
    Registry.register_eq_ok_iff.2 ⟨by decide, rfl, Nat.zero_lt_one, rfl⟩
  have registers
      : Runs (registered.operation.perform ⟨1, 100, []⟩) registered.events
          (registered.reply, ⟨1, 100, [⟨name, none, none⟩]⟩) :=
    Operation.perform_register_runs_iff.2 ⟨by rw [isNew]; rfl, .inl ⟨isNew, rfl⟩⟩
  have history : History 1 100 [registered] _ := .next .fresh registers
  let first : Scene := { registry := ⟨1, 100, [⟨name, none, none⟩]⟩, time := 4294967000 }
  have begins : first.Begins := ⟨rfl, by decide, by decide⟩
  have taken : Course first [.taken] _ := .next .still (.takes rfl)
  have armed : Course first [.taken, .moved] _ := .next taken (.moves (Scene.moved?_eq ..))
  have waits : Course first [.taken, .moved, .elapsed 500] _ :=
    .next armed (.elapses fun since isSince => by cases isSince; decide)
  have fails := waits.next (.fails rfl)
  obtain ⟨known, -, ⟨events, found, looks⟩, -⟩ := entry_follows_visits history begins waits
  obtain ⟨isArmed, -, reports⟩ := known ⟨name, none, none⟩ rfl
  have elapsed : 4294967000 + 500 - 4294967000 = 500 := Nat.add_sub_cancel_left ..
  obtain ⟨reported, -⟩ := ((reports events found _ looks).2 ⟨name, 500, 100⟩).2
    ⟨4294967000, rfl, by rw [elapsed]; decide, by rw [elapsed]; rfl⟩
  obtain ⟨-, -, -, -, -, finishes⟩ := entry_follows_visits history begins fails
  exact ⟨_, first, _, history, begins, waits, isArmed.2 nofun, ⟨events, found, looks, reported⟩,
    _, .fails rfl, rfl, finishes nofun⟩

end Canary

end Caretaker.Liveness
