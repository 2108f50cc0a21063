import Caretaker.Proofs.Liveness.History
import Mathlib.Data.List.Induction

/-!
Registrations over the whole history of a registry. A name is registered once and for good, the
reasons to refuse one are ranked in the same way whatever has been done before, and a registration
that is refused is as if nobody had asked for it.
-/

namespace Caretaker.Liveness

variable {capacity : Nat} {timeout : UInt32} {registry after : Registry} {deeds : List Deed}
variable {events : List (Event Site)} {reply : Reply} {name : String} {own : Option UInt32}

-----------------------------------------------------------------------------
-- The last deed of a history

/-- The last deed of a history was done to what the others left behind. -/
theorem History.concat_iff {deed : Deed}
    : History capacity timeout (deeds ++ [deed]) after
      ↔ ∃ registry, History capacity timeout deeds registry
        ∧ Runs (deed.operation.perform registry) deed.events (deed.reply, after) := by
  constructor
  · intro history
    generalize all : deeds ++ [deed] = whole at history
    cases history with
    | fresh => exact absurd all (List.append_ne_nil_of_right_ne_nil _ (List.cons_ne_nil _ _))
    | next earlier ran =>
      obtain ⟨rfl, last⟩ := List.append_inj' all rfl
      cases last
      exact ⟨_, earlier, ran⟩
  · intro h
    obtain ⟨registry, earlier, ran⟩ := h
    exact .next earlier ran

/-- A history leaves one registry behind. -/
theorem Remembers.unique (one : Remembers capacity timeout deeds registry)
    (other : Remembers capacity timeout deeds after)
    : registry = after := by
  obtain ⟨capacity, timeout, entries⟩ := registry
  obtain ⟨rfl, rfl, rfl, -⟩ := one
  obtain ⟨capacity, timeout, entries⟩ := after
  obtain ⟨same, same', rfl, -⟩ := other
  cases same
  cases same'
  rfl

-----------------------------------------------------------------------------
-- Names

theorem Registry.find?_isSome_iff : (registry.find? name).isSome ↔ name ∈ registry.names := by
  rw [find?, List.find?_isSome, names, List.mem_map]
  simp

theorem Remembers.names_eq (remembers : Remembers capacity timeout deeds registry)
    : registry.names = (roster deeds).map Prod.fst := by
  rw [Registry.names, remembers.entries, List.map_map]
  rfl

/-- No name that was registered is empty, by induction over the history. -/
theorem History.empty_not_mem (history : History capacity timeout deeds registry)
    : "" ∉ registry.names := by
  induction history with
  | fresh => exact List.not_mem_nil
  | @next deeds registry after operation events reply earlier ran ih =>
    rw [(earlier.next ran).remembers.names_eq, roster_concat, List.map_append,
      ← earlier.remembers.names_eq, List.mem_append, not_or]
    refine ⟨ih, ?_⟩
    cases operation with
    | register name own =>
      obtain ⟨-, ⟨enrolled, rfl⟩ | ⟨refusal, -, -, rfl⟩⟩ :=
        Operation.perform_register_runs_iff.1 ran
      · obtain ⟨named, -⟩ := Registry.register_eq_ok_iff.1 enrolled
        intro member
        obtain rfl := List.mem_singleton.1 member
        cases named
      · exact List.not_mem_nil
    | start | stop | check => exact List.not_mem_nil

-----------------------------------------------------------------------------
-- Outcomes

/-- The outcome of a registration. An empty name is refused before any other reason is looked at,
and a name that is there already before the room is.
-/
structure Ranked (registry : Registry) (name : String) (outcome : Except Refusal Unit) : Prop where
  emptyName : outcome = .error .emptyName ↔ name = ""
  duplicate : outcome = .error (.duplicate name) ↔ name ≠ "" ∧ name ∈ registry.names
  full : outcome = .error (.full name)
    ↔ name ≠ "" ∧ name ∉ registry.names ∧ registry.names.length = registry.capacity
  ok : outcome = .ok ()
    ↔ name ≠ "" ∧ name ∉ registry.names ∧ registry.names.length < registry.capacity

/-- What a registry makes of a registration. -/
def Registry.outcome (registry : Registry) (name : String) (own : Option UInt32)
    : Except Refusal Unit :=
  (registry.register name own).map fun _ => ()

/-- By cases over the reasons to refuse a registration, in the order in which they are looked at. -/
theorem Registry.ranked_outcome (fits : registry.names.length ≤ registry.capacity)
    : Ranked registry name (registry.outcome name own) := by
  have length : registry.entries.length = registry.names.length := by
    rw [names, List.length_map]
  have known : (registry.find? name).isSome ↔ name ∈ registry.names := find?_isSome_iff
  unfold outcome register
  rw [length]
  by_cases unnamed : name = ""
  · subst unnamed
    constructor <;> simp [Except.map]
  have named : name.isEmpty = false := by
    simpa using unnamed
  by_cases isKnown : name ∈ registry.names
  · constructor <;> simp [Except.map, named, unnamed, known, isKnown]
  by_cases full : registry.capacity ≤ registry.names.length
  · have all : registry.names.length = registry.capacity := Nat.le_antisymm fits full
    constructor <;> simp [Except.map, named, unnamed, known, isKnown, all]
  · have room := Nat.lt_of_not_le full
    constructor <;> simp [Except.map, named, unnamed, known, isKnown, full, room, Nat.ne_of_lt room]

/-- A name that has just been registered is not armed. -/
theorem Registry.state?_of_register_eq_ok (enrolled : registry.register name own = .ok after)
    : after.state? name = some .disarmed := by
  obtain ⟨-, new, -, rfl⟩ := register_eq_ok_iff.1 enrolled
  rw [find?] at new
  rw [state?, find?, List.find?_append, new]
  simp [Entry.state]

/-- A registration comes to one thing only. Either the name is put behind the others or nothing
changes.
-/
theorem Operation.register_comes_to (registry : Registry) (name : String) (own : Option UInt32)
    : ∃ lines after, (∀ events reply left,
        Runs ((Operation.register name own).perform registry) events (reply, left)
          ↔ events = lines ∧ reply = .registered (registry.outcome name own) ∧ left = after)
      ∧ (registry.outcome name own = .ok ()
        → after = { registry with entries := registry.entries ++ [⟨name, none, own⟩] }
          ∧ after.state? name = some .disarmed)
      ∧ ∀ refusal, registry.outcome name own = .error refusal → after = registry := by
  cases outcome : registry.register name own with
  | ok enrolled =>
    obtain ⟨-, -, -, placed⟩ := Registry.register_eq_ok_iff.1 outcome
    refine ⟨Registry.registrationLines name (.ok enrolled), enrolled, ?_,
      fun _ => ⟨placed, Registry.state?_of_register_eq_ok outcome⟩, ?_⟩
    · intro events reply left
      rw [perform_register_runs_iff, Registry.outcome, outcome]
      simp [Except.map, and_comm, eq_comm]
    · intro refusal refused
      rw [Registry.outcome, outcome] at refused
      cases refused
  | error refusal =>
    refine ⟨Registry.registrationLines name (.error refusal), registry, ?_, ?_, fun _ _ => rfl⟩
    · intro events reply left
      rw [perform_register_runs_iff, Registry.outcome, outcome]
      simp [Except.map, and_comm]
    · intro registered
      rw [Registry.outcome, outcome] at registered
      cases registered

/-- What leaves a registry as it is can be left out of its history. By induction over what is done
after it, from the end.
-/
theorem History.idle_iff {idle : Deed} (history : History capacity timeout deeds registry)
    (ran : Runs (idle.operation.perform registry) idle.events (idle.reply, registry))
    (later : List Deed) {last : Registry}
    : History capacity timeout (deeds ++ idle :: later) last
      ↔ History capacity timeout (deeds ++ later) last := by
  induction later using List.reverseRecOn generalizing last with
  | nil =>
    rw [List.append_nil, concat_iff]
    constructor
    · intro h
      obtain ⟨before, earlier, again⟩ := h
      obtain rfl := earlier.remembers.unique history.remembers
      cases again.value_unique ran
      exact history
    · intro whole
      obtain rfl := whole.remembers.unique history.remembers
      exact ⟨_, history, ran⟩
  | append_singleton later deed ih =>
    -- The last deed was done to a registry that either history of the others leaves behind.
    rw [← List.cons_append, ← List.append_assoc, ← List.append_assoc, concat_iff, concat_iff]
    simp only [ih]

/-- Registrations follow the history of a registry. The names are distinct, none is empty, there are
no more than fit, and they come in the order in which they were registered; a name stays once it is
registered. A registration comes to one outcome, by the ranked reasons to refuse it. Either the name
is put behind the others, not armed, or everything stays as it is, and then all that is done and
answered later would have been the same without it.
-/
theorem registrations_follow_history (history : History capacity timeout deeds registry)
    : (registry.names.Nodup
        ∧ "" ∉ registry.names
        ∧ registry.names.length ≤ capacity
        ∧ registry.names = (roster deeds).map Prod.fst)
      ∧ (∀ more last, History capacity timeout (deeds ++ more) last
        → registry.names <+: last.names)
      ∧ (∀ name own, ∃ lines outcome after,
        Ranked registry name outcome
        ∧ (∀ events reply left,
          Runs ((Operation.register name own).perform registry) events (reply, left)
            ↔ events = lines ∧ reply = .registered outcome ∧ left = after)
        ∧ (outcome = .ok ()
          → after = { registry with entries := registry.entries ++ [⟨name, none, own⟩] }
            ∧ after.state? name = some .disarmed)
        ∧ ∀ refusal, outcome = .error refusal → after = registry)
      ∧ ∀ name own events refusal after,
        Runs ((Operation.register name own).perform registry) events
          (.registered (.error refusal), after)
        → ∀ later last,
          History capacity timeout
              (deeds ++ ⟨.register name own, events, .registered (.error refusal)⟩ :: later) last
            ↔ History capacity timeout (deeds ++ later) last := by
  have remembers := history.remembers
  have fits : registry.names.length ≤ capacity := by
    rw [remembers.names_eq, List.length_map]
    exact remembers.fits
  refine ⟨⟨?nodup, history.empty_not_mem, fits, remembers.names_eq⟩, ?stay, ?outcomes, ?refused⟩
  case nodup =>
    rw [remembers.names_eq]
    exact remembers.distinct
  case stay =>
    intro more last longer
    rw [remembers.names_eq, longer.remembers.names_eq, roster, roster, List.filterMap_append,
      List.map_append]
    exact List.prefix_append ..
  case outcomes =>
    intro name own
    obtain ⟨lines, after, runs, placed, unchanged⟩ :=
      Operation.register_comes_to registry name own
    rw [← remembers.room] at fits
    exact ⟨lines, _, after, Registry.ranked_outcome fits, runs, placed, unchanged⟩
  case refused =>
    intro name own events refusal after ran later last
    have same : after = registry := by
      obtain ⟨-, ⟨-, isOk⟩ | ⟨refusal, -, same, -⟩⟩ := Operation.perform_register_runs_iff.1 ran
      · cases isOk
      · exact same
    subst same
    exact history.idle_iff ran later

/-- Behind a pump that takes all the room there is, a fan is refused, and nothing remembers it. -/
theorem registrations_follow_history_full
    : ∃ deeds registry refused, History 1 100 deeds registry
      ∧ refused.operation = .register "fan" none
      ∧ refused.reply = .registered (.error (.full "fan"))
      ∧ History 1 100 (deeds ++ [refused]) registry
      ∧ "pump" ∈ registry.names := by
  let line := Site.said .debug Registry.origin "Task watchdog 'pump' registered"
  let pump : Registry := ⟨1, 100, [⟨"pump", none, none⟩]⟩
  have isNew : Registry.register ⟨1, 100, []⟩ "pump" none = .ok pump :=
    Registry.register_eq_ok_iff.2 ⟨by decide, rfl, by decide, rfl⟩
  have registers
      : Runs ((Operation.register "pump" none).perform ⟨1, 100, []⟩) [line]
          (.registered (.ok ()), pump) :=
    Operation.perform_register_runs_iff.2 ⟨by rw [isNew]; rfl, .inl ⟨isNew, rfl⟩⟩
  have history : History 1 100 [⟨.register "pump" none, [line], .registered (.ok ())⟩] pump :=
    .next .fresh registers
  obtain ⟨-, stay, outcomes, refusals⟩ := registrations_follow_history history
  obtain ⟨lines, outcome, after, ranked, runs, -, unchanged⟩ := outcomes "fan" none
  obtain rfl := ranked.full.2 ⟨by decide, by decide, rfl⟩
  have ran := (runs _ _ _).2 ⟨rfl, rfl, (unchanged _ rfl).symm⟩
  have longer := (refusals _ _ _ _ _ ran [] pump).2 history
  have remains := (stay _ _ longer).subset (List.mem_singleton_self _)
  exact ⟨_, pump, _, history, rfl, rfl, longer, remains⟩

end Caretaker.Liveness
