import Caretaker.Proofs.Liveness.History

/-!
Which tasks a registry finds stuck. Every armed name costs one reading of the clock, and it is
reported if this reading is beyond its timeout, with no regard to how many others are.
-/

namespace Caretaker.Liveness

variable {name : String} {deeds : List Deed} {capacity : Nat} {timeout : UInt32}
variable {registry after : Registry} {events : List (Event Site)} {reply : Reply}

-----------------------------------------------------------------------------
-- Armed names

/-- A registered name that has been started since it was stopped last. -/
structure Armed where
  name : String
  /-- Its own timeout, if it has one. -/
  timeout : Option UInt32
  /-- The reading of the clock at its last start. -/
  startedAt : Stamp

/-- The armed names of a history, in the order of their registration. -/
def armedTasks (deeds : List Deed) : List Armed :=
  (roster deeds).filterMap fun (name, own) => (lastStamp name deeds).map (⟨name, own, ·⟩)

/-- The armed names are those that are armed in the registry. -/
theorem Remembers.mem_armedTasks_iff (remembers : Remembers capacity timeout deeds registry)
    : name ∈ (armedTasks deeds).map Armed.name ↔ registry.state? name = some .armed := by
  rw [remembers.state?_eq_armed_iff]
  constructor
  · intro h
    obtain ⟨task, isArmed, rfl⟩ := List.mem_map.1 h
    obtain ⟨member, inRoster, isTask⟩ := List.mem_filterMap.1 isArmed
    obtain ⟨time, stamped, rfl⟩ := Option.map_eq_some_iff.1 isTask
    have registered : IsRegistered member.1 deeds := List.mem_map_of_mem inRoster
    exact ⟨registered, (remembers.lastStamp_isSome_iff registered).1 (by simp [stamped])⟩
  · intro h
    obtain ⟨registered, started⟩ := h
    obtain ⟨time, stamped⟩ :=
      Option.isSome_iff_exists.1 ((remembers.lastStamp_isSome_iff registered).2 started)
    obtain ⟨member, inRoster, rfl⟩ := List.mem_map.1 registered
    refine List.mem_map.2 ⟨⟨member.1, member.2, time⟩, ?_, rfl⟩
    exact List.mem_filterMap.2 ⟨member, inRoster, by simp [stamped]⟩

/-- No name is armed twice. -/
theorem Remembers.armedTasks_nodup (remembers : Remembers capacity timeout deeds registry)
    : ((armedTasks deeds).map Armed.name).Nodup := by
  have distinct := remembers.distinct
  rw [List.Nodup, List.pairwise_map] at distinct ⊢
  rw [armedTasks, List.pairwise_filterMap]
  refine distinct.imp fun {one other} different => ?_
  intro task isTask task' isTask'
  obtain ⟨time, -, rfl⟩ := Option.map_eq_some_iff.1 isTask
  obtain ⟨time', -, rfl⟩ := Option.map_eq_some_iff.1 isTask'
  exact different

-----------------------------------------------------------------------------
-- Reports

/-- The report about an armed name for a reading of the clock. It is due if the time since the last
start is beyond the timeout and within half the range of the clock.
-/
def Armed.overdue? (fallback : UInt32) (task : Armed) (reading : Stamp) : Option Stuck :=
  let elapsed := (((reading.toNat : Int) - task.startedAt.toNat) % UInt32.size).toNat
  let timeout := task.timeout.getD fallback
  if timeout.toNat < elapsed ∧ elapsed ≤ 0x7fffffff then
    some ⟨task.name, UInt32.ofNat elapsed, timeout⟩
  else
    none

/-- The reports about armed names, for one reading of the clock each. -/
def overdue (fallback : UInt32) (tasks : List Armed) (readings : List Stamp) : List Stuck :=
  (tasks.zip readings).filterMap fun (task, reading) => task.overdue? fallback reading

theorem overdue_cons {fallback : UInt32} {task : Armed} {tasks : List Armed} {reading : Stamp}
    {readings : List Stamp}
    : overdue fallback (task :: tasks) (reading :: readings)
      = (task.overdue? fallback reading).toList ++ overdue fallback tasks readings := by
  rw [overdue, List.zip_cons_cons, List.filterMap_cons]
  cases due : task.overdue? fallback reading <;> simp [due, overdue]

/-- The entry of an armed name. -/
def Armed.entry (task : Armed) : Entry :=
  ⟨task.name, some task.startedAt, task.timeout⟩

/-- The report about an entry is due by the rule for armed names. -/
theorem Armed.stuck?_entry (task : Armed) (fallback : UInt32) (reading : Stamp)
    : task.entry.stuck? fallback task.startedAt reading = task.overdue? fallback reading := by
  rw [Entry.stuck?_eq, Armed.overdue?, ← Stamp.toNat_since_emod, Int.toNat_natCast,
    UInt32.ofNat_toNat]
  rfl

/-- The reports about the entries of armed names are those that are due, by induction over the
names.
-/
theorem reports_eq_overdue {fallback : UInt32} {tasks : List Armed} {readings : List Stamp}
    : Registry.reports fallback (tasks.map fun task => (task.entry, task.startedAt)) readings
      = overdue fallback tasks readings := by
  induction tasks generalizing readings with
  | nil => rfl
  | cons task tasks ih =>
    cases readings with
    | nil => simp [Registry.reports, overdue]
    | cons reading readings =>
      rw [List.map_cons, Registry.reports_cons, overdue_cons, task.stuck?_entry, ih]

/-- The armed entries of a registry are those of the armed names of its history. -/
theorem Remembers.armed_eq (remembers : Remembers capacity timeout deeds registry)
    : Registry.armed registry.entries
      = (armedTasks deeds).map fun task => (task.entry, task.startedAt) := by
  rw [Registry.armed, remembers.entries, List.filterMap_map, armedTasks, List.map_filterMap]
  refine congrArg (List.filterMap · (roster deeds)) (funext fun member => ?_)
  simp only [Function.comp_apply, entryOf]
  cases lastStamp member.1 deeds <;> rfl

/-- A report bears the name that it is about. -/
theorem Armed.name_of_overdue? {task : Armed} {fallback : UInt32} {reading : Stamp} {report : Stuck}
    (due : task.overdue? fallback reading = some report)
    : report.name = task.name := by
  unfold overdue? at due
  dsimp only at due
  split at due
  · cases due
    rfl
  · cases due

/-- No name is reported twice. -/
theorem Remembers.overdue_nodup (remembers : Remembers capacity timeout deeds registry)
    {readings : List Stamp} (length : readings.length = (armedTasks deeds).length)
    : ((overdue timeout (armedTasks deeds) readings).map Stuck.name).Nodup := by
  have each := remembers.armedTasks_nodup
  rw [← List.map_fst_zip (Nat.le_of_eq length.symm), List.map_map] at each
  rw [List.Nodup, List.pairwise_map] at each ⊢
  rw [overdue, List.pairwise_filterMap]
  refine each.imp fun {one other} different => ?_
  intro report isReport report' isReport'
  rw [Armed.name_of_overdue? isReport, Armed.name_of_overdue? isReport']
  exact different

/-- With as much room as there are names no report is dropped. -/
theorem Remembers.stuck_runs_iff (remembers : Remembers capacity timeout deeds registry)
    {stuck : List Stuck}
    : Runs (registry.stuck : Program Site _) events stuck
      ↔ ∃ readings : List Stamp, readings.length = (armedTasks deeds).length
        ∧ events = Registry.readEvents readings
        ∧ stuck = overdue timeout (armedTasks deeds) readings := by
  have armedLength := List.length_filterMap_le
    (fun member => (lastStamp member.1 deeds).map (Armed.mk member.1 member.2)) (roster deeds)
  have fits : (Registry.armed registry.entries).length ≤ registry.capacity := by
    rw [remembers.armed_eq, List.length_map, remembers.room]
    exact Nat.le_trans armedLength remembers.fits
  rw [Registry.stuck, Registry.stuckAmong_runs_iff (by simpa using fits), remembers.armed_eq,
    remembers.fallback]
  simp only [List.length_map, List.nil_append, reports_eq_overdue]

-----------------------------------------------------------------------------
-- Whole histories

/-- A registry tells what its history says. A name has a state once it is registered, which is that
of its last start or stop since then. A look for stuck tasks reads the clock for each armed name,
in the order of their registration, reports every name for which the time since its last start is
beyond its timeout, and changes nothing. Names that are not registered are neither started nor
stopped. By what a registry remembers.
-/
theorem registry_follows_history (history : History capacity timeout deeds registry)
    : (∀ name,
        (registry.state? name = none ↔ ¬ IsRegistered name deeds)
        ∧ (registry.state? name = some .armed
            ↔ IsRegistered name deeds ∧ IsStarted name deeds)
        ∧ (registry.state? name = some .disarmed
            ↔ IsRegistered name deeds ∧ ¬ IsStarted name deeds)
        ∧ (name ∈ (armedTasks deeds).map Armed.name ↔ registry.state? name = some .armed))
      ∧ (∀ events reply after,
        Runs (Operation.check.perform registry) events (reply, after)
          ↔ after = registry
            ∧ ∃ readings : List Stamp, readings.length = (armedTasks deeds).length
              ∧ events = Registry.readEvents readings
              ∧ reply = .found (overdue timeout (armedTasks deeds) readings))
      ∧ (∀ readings, readings.length = (armedTasks deeds).length
        → ((overdue timeout (armedTasks deeds) readings).map Stuck.name).Nodup)
      ∧ (∀ name, ¬ IsRegistered name deeds → ∀ events reply after,
        (Runs ((Operation.start name).perform registry) events (reply, after)
          ↔ events = [Registry.unknownLine "start" name] ∧ reply = .known false
            ∧ after = registry)
        ∧ (Runs ((Operation.stop name).perform registry) events (reply, after)
          ↔ events = [Registry.unknownLine "stop" name] ∧ reply = .known false
            ∧ after = registry)) := by
  have remembers := history.remembers
  refine ⟨?states, ?check, fun _ => remembers.overdue_nodup, ?unknown⟩
  case states =>
    intro name
    exact ⟨remembers.state?_eq_none_iff, remembers.state?_eq_armed_iff,
      remembers.state?_eq_disarmed_iff, remembers.mem_armedTasks_iff⟩
  case check =>
    intro events reply after
    rw [Operation.perform_check_runs_iff]
    refine and_congr_right fun _ => ?_
    constructor
    · intro h
      obtain ⟨stuck, rfl, ran⟩ := h
      obtain ⟨readings, length, asked, rfl⟩ := remembers.stuck_runs_iff.1 ran
      exact ⟨readings, length, asked, rfl⟩
    · intro h
      obtain ⟨readings, length, asked, rfl⟩ := h
      exact ⟨_, rfl, remembers.stuck_runs_iff.2 ⟨readings, length, asked, rfl⟩⟩
  case unknown =>
    intro name unregistered events reply after
    rw [← remembers.find?_isSome_iff, Option.not_isSome_iff_eq_none] at unregistered
    exact ⟨Operation.perform_start_runs_iff_of_new unregistered,
      Operation.perform_stop_runs_iff_of_new unregistered⟩

/-- A pump that was started just before the clock starts over is found stuck after that. -/
theorem registry_follows_history_pump
    : ∃ deeds registry, History 2 100 deeds registry
      ∧ registry.state? "pump" = some .armed
      ∧ Runs (Operation.check.perform registry) (Registry.readEvents [204])
          (.found [⟨"pump", 500, 100⟩], registry) := by
  let line := Site.said .debug Registry.origin "Task watchdog 'pump' registered"
  let registered : Deed := ⟨.register "pump" none, [line], .registered (.ok ())⟩
  let started : Deed := ⟨.start "pump", [⟨.now, (4294967000 : Stamp)⟩], .known true⟩
  have isNew
      : Registry.register ⟨2, 100, []⟩ "pump" none = .ok ⟨2, 100, [⟨"pump", none, none⟩]⟩ :=
    Registry.register_eq_ok_iff.2 ⟨by decide, rfl, by decide, rfl⟩
  have registers
      : Runs (registered.operation.perform ⟨2, 100, []⟩) registered.events
          (registered.reply, ⟨2, 100, [⟨"pump", none, none⟩]⟩) :=
    Operation.perform_register_runs_iff.2 ⟨by rw [isNew]; rfl, .inl ⟨isNew, rfl⟩⟩
  have starts
      : Runs (started.operation.perform ⟨2, 100, [⟨"pump", none, none⟩]⟩) started.events
          (started.reply, ⟨2, 100, [⟨"pump", some 4294967000, none⟩]⟩) :=
    Operation.perform_start_runs_iff.2
      ⟨true, rfl, Registry.start_runs_iff.2 (.inl ⟨rfl, rfl, 4294967000, rfl, rfl⟩)⟩
  have history : History 2 100 [registered, started] _ := .next (.next .fresh registers) starts
  obtain ⟨states, looks, -⟩ := registry_follows_history history
  have isStarted : IsStarted "pump" [registered, started] := ⟨started, rfl, rfl⟩
  refine ⟨_, _, history, (states "pump").2.1.2 ⟨List.mem_singleton_self _, isStarted⟩, ?_⟩
  exact (looks _ _ _).2 ⟨rfl, [204], rfl, rfl, rfl⟩

end Caretaker.Liveness
