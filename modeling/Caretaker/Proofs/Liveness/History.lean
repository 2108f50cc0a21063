import Caretaker.Proofs.Cycle.Rounds
import Caretaker.Proofs.Liveness.Steps

/-!
Histories of a registry. All that a registry tells can be read off what was done to it: which names
were registered, and what was done last about each of them since then.
-/

namespace Caretaker.Liveness

-----------------------------------------------------------------------------
-- What is done to a registry

/-- What can be done to a registry. -/
inductive Operation where
  | register (name : String) (timeout : Option UInt32)
  | start (name : String)
  | stop (name : String)
  | check

/-- What comes of it. -/
inductive Reply where
  | registered (outcome : Except Refusal Unit)
  | known (isKnown : Bool)
  | found (stuck : List Stuck)

/-- Do something to a registry. -/
def Operation.perform (registry : Registry) : Operation → Program Site (Reply × Registry)
  | .register name timeout => do
    match ← registry.enroll name timeout with
    | .ok enrolled => return (.registered (.ok ()), enrolled)
    | .error refusal => return (.registered (.error refusal), registry)
  | .start name => do
    let (isKnown, after) ← registry.start name
    return (.known isKnown, after)
  | .stop name => do
    let (isKnown, after) ← registry.stop name
    return (.known isKnown, after)
  | .check => return (.found (← registry.stuck), registry)

/-- Something that was done, with what was asked and what came of it. -/
structure Deed where
  operation : Operation
  events : List (Event Site)
  reply : Reply

/-- What was done to a registry from its setup on, in order, and what has become of it. -/
inductive History (capacity : Nat) (timeout : UInt32) : List Deed → Registry → Prop where
  | fresh : History capacity timeout [] { capacity, timeout }
  | next {deeds : List Deed} {registry after : Registry} {operation : Operation}
      {events : List (Event Site)} {reply : Reply}
      (earlier : History capacity timeout deeds registry)
      (ran : Runs (operation.perform registry) events (reply, after))
      : History capacity timeout (deeds ++ [⟨operation, events, reply⟩]) after

namespace Operation

variable {registry after : Registry} {events : List (Event Site)} {reply : Reply} {name : String}

theorem perform_register_runs_iff {own : Option UInt32}
    : Runs ((register name own).perform registry) events (reply, after)
      ↔ events = Registry.registrationLines name (registry.register name own)
        ∧ ((registry.register name own = .ok after ∧ reply = .registered (.ok ()))
          ∨ ∃ refusal, registry.register name own = .error refusal ∧ after = registry
            ∧ reply = .registered (.error refusal)) := by
  rw [perform, Runs.bind_iff]
  constructor
  · intro h
    obtain ⟨enrolling, rest, answer, rfl, enrolled, ended⟩ := h
    obtain ⟨rfl, rfl⟩ := Registry.enroll_runs_iff.1 enrolled
    cases outcome : registry.register name own with
    | ok enrolled =>
      rw [outcome] at ended
      obtain ⟨rfl, same⟩ := Runs.done_iff.1 ended
      cases same
      exact ⟨List.append_nil _, .inl ⟨rfl, rfl⟩⟩
    | error refusal =>
      rw [outcome] at ended
      obtain ⟨rfl, same⟩ := Runs.done_iff.1 ended
      cases same
      exact ⟨List.append_nil _, .inr ⟨refusal, rfl, rfl, rfl⟩⟩
  · intro h
    obtain ⟨rfl, outcome⟩ := h
    refine ⟨_, [], _, (List.append_nil _).symm, Registry.enroll_runs_iff.2 ⟨rfl, rfl⟩, ?_⟩
    rcases outcome with ⟨enrolled, rfl⟩ | ⟨refusal, refused, rfl, rfl⟩
    · rw [enrolled]
      exact .done _
    · rw [refused]
      exact .done _

theorem perform_start_runs_iff
    : Runs ((start name).perform registry) events (reply, after)
      ↔ ∃ isKnown, reply = .known isKnown
        ∧ Runs (registry.start name : Program Site _) events (isKnown, after) := by
  refine Runs.bind_done_iff.trans ?_
  constructor
  · intro h
    obtain ⟨⟨isKnown, left⟩, ran, same⟩ := h
    cases same
    exact ⟨isKnown, rfl, ran⟩
  · intro h
    obtain ⟨isKnown, rfl, ran⟩ := h
    exact ⟨_, ran, rfl⟩

theorem perform_stop_runs_iff
    : Runs ((stop name).perform registry) events (reply, after)
      ↔ ∃ isKnown, reply = .known isKnown
        ∧ Runs (registry.stop name : Program Site _) events (isKnown, after) := by
  refine Runs.bind_done_iff.trans ?_
  constructor
  · intro h
    obtain ⟨⟨isKnown, left⟩, ran, same⟩ := h
    cases same
    exact ⟨isKnown, rfl, ran⟩
  · intro h
    obtain ⟨isKnown, rfl, ran⟩ := h
    exact ⟨_, ran, rfl⟩

/-- A name that is not registered is not started. -/
theorem perform_start_runs_iff_of_new (new : registry.find? name = none)
    : Runs ((start name).perform registry) events (reply, after)
      ↔ events = [Registry.unknownLine "start" name] ∧ reply = .known false
        ∧ after = registry := by
  rw [perform_start_runs_iff]
  simp only [Registry.start_runs_iff, new]
  simp [and_left_comm]

/-- A name that is not registered is not stopped. -/
theorem perform_stop_runs_iff_of_new (new : registry.find? name = none)
    : Runs ((stop name).perform registry) events (reply, after)
      ↔ events = [Registry.unknownLine "stop" name] ∧ reply = .known false
        ∧ after = registry := by
  rw [perform_stop_runs_iff]
  simp only [Registry.stop_runs_iff, new]
  simp [and_left_comm]

theorem perform_check_runs_iff
    : Runs (check.perform registry) events (reply, after)
      ↔ after = registry ∧ ∃ stuck, reply = .found stuck
        ∧ Runs (registry.stuck : Program Site _) events stuck := by
  refine Runs.bind_done_iff.trans ?_
  constructor
  · intro h
    obtain ⟨stuck, ran, same⟩ := h
    cases same
    exact ⟨rfl, stuck, rfl, ran⟩
  · intro h
    obtain ⟨rfl, stuck, rfl, ran⟩ := h
    exact ⟨stuck, ran, rfl⟩

end Operation

-----------------------------------------------------------------------------
-- What a history tells

namespace Deed

/-- The name that was registered, with its own timeout. -/
def registered? (deed : Deed) : Option (String × Option UInt32) :=
  match deed.operation, deed.reply with
  | .register name timeout, .registered (.ok _) => some (name, timeout)
  | _, _ => none

/-- Whether this registered a name. -/
def registers (deed : Deed) (name : String) : Bool :=
  deed.registered?.any (·.1 = name)

/-- Whether this was a start or a stop of a name. -/
def touches (deed : Deed) (name : String) : Bool :=
  match deed.operation with
  | .start other | .stop other => other = name
  | _ => false

/-- The reading of the clock that a start took. -/
def stamp? (deed : Deed) : Option Stamp :=
  match deed.operation with
  | .start _ => (View.readings.of deed.events).head?
  | _ => none

end Deed

/-- The names that were registered, in order and with their own timeouts. -/
def roster (deeds : List Deed) : List (String × Option UInt32) :=
  deeds.filterMap Deed.registered?

/-- What was done behind the registration of a name. -/
def behind (name : String) (deeds : List Deed) : List Deed :=
  (deeds.dropWhile fun deed => !deed.registers name).tail

/-- The last start or stop of a name behind its registration. -/
def lastTouch (name : String) (deeds : List Deed) : Option Deed :=
  ((behind name deeds).filter (·.touches name)).getLast?

/-- The reading of the clock with which a name was started, unless it has been stopped since. -/
def lastStamp (name : String) (deeds : List Deed) : Option Stamp :=
  (lastTouch name deeds).bind Deed.stamp?

/-- Whether a name was registered. -/
def IsRegistered (name : String) (deeds : List Deed) : Prop :=
  name ∈ (roster deeds).map Prod.fst

variable {name : String} {deeds : List Deed} {deed : Deed}

theorem roster_concat (deeds : List Deed) (deed : Deed)
    : roster (deeds ++ [deed]) = roster deeds ++ deed.registered?.toList := by
  rw [roster, List.filterMap_append]
  cases registered : deed.registered? <;> simp [registered, roster]

theorem isRegistered_cons
    : IsRegistered name (deed :: deeds) ↔ deed.registers name = true ∨ IsRegistered name deeds := by
  rw [IsRegistered, roster, List.filterMap_cons, Deed.registers]
  cases registered : deed.registered? with
  | none => simp [IsRegistered, roster]
  | some entry => simp [IsRegistered, roster, eq_comm]

theorem isRegistered_concat
    : IsRegistered name (deeds ++ [deed])
      ↔ IsRegistered name deeds ∨ deed.registers name = true := by
  rw [IsRegistered, roster_concat, List.map_append, List.mem_append, Deed.registers]
  refine or_congr_right ?_
  cases deed.registered? <;> simp [eq_comm]

theorem behind_cons
    : behind name (deed :: deeds) = if deed.registers name then deeds else behind name deeds := by
  rw [behind, List.dropWhile_cons]
  cases deed.registers name <;> rfl

/-- What is done once a name is registered comes behind its registration, by induction over what
was done before.
-/
theorem behind_concat (registered : IsRegistered name deeds)
    : behind name (deeds ++ [deed]) = behind name deeds ++ [deed] := by
  induction deeds with
  | nil => simp [IsRegistered, roster] at registered
  | cons first rest ih =>
    rw [List.cons_append, behind_cons, behind_cons]
    cases registers : first.registers name with
    | true => rfl
    | false =>
      rw [isRegistered_cons, registers] at registered
      exact ih (registered.resolve_left Bool.false_ne_true)

/-- Nothing is behind a registration that was done last, by induction over what was done before. -/
theorem behind_of_registers (unregistered : ¬ IsRegistered name deeds)
    (registers : deed.registers name = true)
    : behind name (deeds ++ [deed]) = [] := by
  induction deeds with
  | nil => rw [List.nil_append, behind_cons, if_pos registers]
  | cons first rest ih =>
    rw [isRegistered_cons, not_or] at unregistered
    rw [List.cons_append, behind_cons, if_neg unregistered.1]
    exact ih unregistered.2

theorem lastTouch_concat (registered : IsRegistered name deeds)
    : lastTouch name (deeds ++ [deed])
      = if deed.touches name then some deed else lastTouch name deeds := by
  rw [lastTouch, behind_concat registered, List.filter_append]
  cases touches : deed.touches name <;> simp [touches, lastTouch]

theorem lastStamp_concat (registered : IsRegistered name deeds)
    : lastStamp name (deeds ++ [deed])
      = if deed.touches name then deed.stamp? else lastStamp name deeds := by
  rw [lastStamp, lastTouch_concat registered]
  cases deed.touches name <;> rfl

theorem touches_of_lastTouch (last : lastTouch name deeds = some deed)
    : deed.touches name = true :=
  (List.mem_filter.1 (List.mem_of_getLast? last)).2

-----------------------------------------------------------------------------
-- What a registry remembers of its history

/-- The entry of a name that was registered. -/
def entryOf (deeds : List Deed) (member : String × Option UInt32) : Entry :=
  ⟨member.1, lastStamp member.1 deeds, member.2⟩

/-- A registry remembers its history: the names that were registered, each with the stamp of its
last start unless it has been stopped since.
-/
structure Remembers (capacity : Nat) (timeout : UInt32) (deeds : List Deed) (registry : Registry)
    : Prop where
  room : registry.capacity = capacity
  fallback : registry.timeout = timeout
  entries : registry.entries = (roster deeds).map (entryOf deeds)
  distinct : ((roster deeds).map Prod.fst).Nodup
  fits : (roster deeds).length ≤ capacity
  stamped : ∀ name, IsRegistered name deeds
    → ∀ deed, lastTouch name deeds = some deed → deed.operation = .start name
    → deed.stamp?.isSome

namespace Remembers

variable {capacity : Nat} {timeout : UInt32} {registry after : Registry}

theorem fresh : Remembers capacity timeout [] { capacity, timeout } where
  room := rfl
  fallback := rfl
  entries := rfl
  distinct := List.nodup_nil
  fits := Nat.zero_le capacity
  stamped := nofun

/-- A registered name is found with its stamp. -/
theorem find?_eq (remembers : Remembers capacity timeout deeds registry) (name : String)
    : registry.find? name
      = ((roster deeds).find? (·.1 = name)).map (entryOf deeds) := by
  rw [Registry.find?, remembers.entries, List.find?_map]
  rfl

theorem find?_isSome_iff (remembers : Remembers capacity timeout deeds registry) (name : String)
    : (registry.find? name).isSome ↔ IsRegistered name deeds := by
  rw [remembers.find?_eq, Option.isSome_map, List.find?_isSome, IsRegistered]
  simp

/-- Entries stay as they are if they are stamped as before. -/
theorem map_entryOf_congr {more : List Deed}
    (same : ∀ name, IsRegistered name deeds → lastStamp name more = lastStamp name deeds)
    : (roster deeds).map (entryOf more) = (roster deeds).map (entryOf deeds) := by
  refine List.map_congr_left fun member inRoster => ?_
  rw [entryOf, entryOf, same member.1 (List.mem_map_of_mem inRoster)]

/-- Whatever registers nothing and touches no registered name leaves everything as it is. -/
theorem aside (remembers : Remembers capacity timeout deeds registry)
    (registersNone : deed.registered? = none)
    (touchesNone : ∀ name, IsRegistered name deeds → deed.touches name = false)
    : Remembers capacity timeout (deeds ++ [deed]) registry := by
  have roster_eq : roster (deeds ++ [deed]) = roster deeds := by
    rw [roster_concat, registersNone, Option.toList_none, List.append_nil]
  refine ⟨remembers.room, remembers.fallback, ?_, ?_, ?_, ?_⟩
  · rw [remembers.entries, roster_eq]
    refine (map_entryOf_congr fun name registered => ?_).symm
    rw [lastStamp_concat registered, if_neg (Bool.eq_false_iff.1 (touchesNone name registered))]
  · rw [roster_eq]
    exact remembers.distinct
  · rw [roster_eq]
    exact remembers.fits
  · intro name registered last
    rw [IsRegistered, roster_eq] at registered
    rw [lastTouch_concat registered,
      if_neg (Bool.eq_false_iff.1 (touchesNone name registered))]
    exact remembers.stamped name registered last

/-- A start or a stop of a registered name changes the stamp of this name and nothing else. -/
theorem touch (remembers : Remembers capacity timeout deeds registry)
    (registersNone : deed.registered? = none)
    (touchesOne : ∀ other, deed.touches other = decide (name = other))
    (isStamped : deed.operation = .start name → deed.stamp?.isSome)
    : Remembers capacity timeout (deeds ++ [deed])
        (registry.modify name ({ · with armedAt := deed.stamp? })) := by
  have roster_eq : roster (deeds ++ [deed]) = roster deeds := by
    rw [roster_concat, registersNone, Option.toList_none, List.append_nil]
  refine ⟨remembers.room, remembers.fallback, ?_, ?_, ?_, ?_⟩
  · rw [Registry.modify, remembers.entries, roster_eq, List.map_map]
    refine List.map_congr_left fun member inRoster => ?_
    have registered : IsRegistered member.1 deeds := List.mem_map_of_mem inRoster
    rw [Function.comp_apply, entryOf, entryOf, lastStamp_concat registered, touchesOne]
    by_cases same : member.1 = name
    · simp [same]
    · simp [same, Ne.symm same]
  · rw [roster_eq]
    exact remembers.distinct
  · rw [roster_eq]
    exact remembers.fits
  · intro other registered last
    rw [IsRegistered, roster_eq] at registered
    rw [lastTouch_concat registered, touchesOne]
    by_cases same : name = other
    · subst same
      intro same
      simp only [decide_true, if_true, Option.some.injEq] at same
      exact same ▸ isStamped
    · rw [decide_eq_false same, if_neg Bool.false_ne_true]
      exact remembers.stamped other registered last

/-- A registration puts a new name behind those that were there before, without a stamp. -/
theorem enroll {own : Option UInt32} (remembers : Remembers capacity timeout deeds registry)
    (registersOne : deed.registered? = some (name, own))
    (touchesNone : ∀ other, deed.touches other = false)
    (enrolled : registry.register name own = .ok after)
    : Remembers capacity timeout (deeds ++ [deed]) after := by
  obtain ⟨-, new, room, rfl⟩ := Registry.register_eq_ok_iff.1 enrolled
  have unregistered : ¬ IsRegistered name deeds := by
    rw [← remembers.find?_isSome_iff, new]
    exact Bool.false_ne_true
  have roster_eq : roster (deeds ++ [deed]) = roster deeds ++ [(name, own)] := by
    rw [roster_concat, registersOne, Option.toList_some]
  have nothing : behind name (deeds ++ [deed]) = [] :=
    behind_of_registers unregistered (by simp [Deed.registers, registersOne])
  refine ⟨remembers.room, remembers.fallback, ?_, ?_, ?_, ?_⟩
  · have kept : (roster deeds).map (entryOf (deeds ++ [deed])) = registry.entries := by
      rw [remembers.entries]
      refine map_entryOf_congr fun other registered => ?_
      rw [lastStamp_concat registered, touchesNone, if_neg Bool.false_ne_true]
    have added : entryOf (deeds ++ [deed]) (name, own) = ⟨name, none, own⟩ := by
      simp [entryOf, lastStamp, lastTouch, nothing]
    rw [roster_eq, List.map_append, kept, List.map_singleton, added]
  · rw [roster_eq, List.map_append]
    refine List.nodup_append.2 ⟨remembers.distinct, by simp, ?_⟩
    intro other registered added single same
    obtain rfl := List.mem_singleton.1 single
    exact unregistered (same ▸ registered)
  · rw [roster_eq, List.length_append, List.length_singleton]
    have length := congrArg List.length remembers.entries
    rw [List.length_map] at length
    have capacity := remembers.room
    omega
  · intro other registered last same
    rw [isRegistered_concat] at registered
    by_cases known : IsRegistered other deeds
    · rw [lastTouch_concat known, touchesNone, if_neg Bool.false_ne_true] at same
      exact remembers.stamped other known last same
    · have isNew : deed.registers other = true := registered.resolve_left known
      simp only [Deed.registers, registersOne, Option.any_some, decide_eq_true_eq] at isNew
      subst isNew
      rw [lastTouch, nothing] at same
      cases same

/-- Whatever is done to a registry, it remembers its history. By cases over what is done. -/
theorem next {operation : Operation} {events : List (Event Site)} {reply : Reply}
    (remembers : Remembers capacity timeout deeds registry)
    (ran : Runs (operation.perform registry) events (reply, after))
    : Remembers capacity timeout (deeds ++ [⟨operation, events, reply⟩]) after := by
  have unknown {name : String} (new : registry.find? name = none) (other : String)
      (registered : IsRegistered other deeds)
      : decide (name = other) = false := by
    rw [← remembers.find?_isSome_iff] at registered
    refine decide_eq_false fun same => ?_
    rw [← same, new] at registered
    cases registered
  cases operation with
  | register name own =>
    obtain ⟨-, ⟨enrolled, rfl⟩ | ⟨refusal, -, rfl, rfl⟩⟩ :=
      Operation.perform_register_runs_iff.1 ran
    · exact remembers.enroll rfl (fun _ => rfl) enrolled
    · exact remembers.aside rfl fun _ _ => rfl
  | start name =>
    obtain ⟨isKnown, rfl, started⟩ := Operation.perform_start_runs_iff.1 ran
    rcases Registry.start_runs_iff.1 started with ⟨-, rfl, time, rfl, rfl⟩ | ⟨new, rfl, rfl, rfl⟩
    · exact remembers.touch rfl (fun _ => rfl) fun _ => rfl
    · exact remembers.aside rfl (unknown new)
  | stop name =>
    obtain ⟨isKnown, rfl, stopped⟩ := Operation.perform_stop_runs_iff.1 ran
    rcases Registry.stop_runs_iff.1 stopped with ⟨-, rfl, rfl, rfl⟩ | ⟨new, rfl, rfl, rfl⟩
    · exact remembers.touch rfl (fun _ => rfl) nofun
    · exact remembers.aside rfl (unknown new)
  | check =>
    obtain ⟨rfl, stuck, rfl, -⟩ := Operation.perform_check_runs_iff.1 ran
    exact remembers.aside rfl fun _ _ => rfl

end Remembers

/-- A registry remembers its history, by induction over the history. -/
theorem History.remembers {capacity : Nat} {timeout : UInt32} {registry : Registry}
    (history : History capacity timeout deeds registry)
    : Remembers capacity timeout deeds registry := by
  induction history with
  | fresh => exact .fresh
  | next _ ran ih => exact ih.next ran

-----------------------------------------------------------------------------
-- States

/-- The last start or stop of a name behind its registration was a start. -/
def IsStarted (name : String) (deeds : List Deed) : Prop :=
  ∃ deed, lastTouch name deeds = some deed ∧ deed.operation = .start name

section

variable {capacity : Nat} {timeout : UInt32} {registry : Registry}

/-- A registered name has a stamp if it was started last. -/
theorem Remembers.lastStamp_isSome_iff (remembers : Remembers capacity timeout deeds registry)
    (registered : IsRegistered name deeds)
    : (lastStamp name deeds).isSome ↔ IsStarted name deeds := by
  rw [lastStamp, IsStarted]
  constructor
  · intro stamped
    obtain ⟨time, isTime⟩ := Option.isSome_iff_exists.1 stamped
    obtain ⟨deed, last, stamp⟩ := Option.bind_eq_some_iff.1 isTime
    have touches := touches_of_lastTouch last
    obtain ⟨operation, events, reply⟩ := deed
    cases operation with
    | start other =>
      have same : other = name := by simpa [Deed.touches] using touches
      exact ⟨_, last, congrArg Operation.start same⟩
    | register | stop | check => cases stamp
  · intro started
    obtain ⟨deed, last, isStart⟩ := started
    rw [last, Option.bind_some]
    exact remembers.stamped name registered deed last isStart

theorem Remembers.state?_eq (remembers : Remembers capacity timeout deeds registry)
    (registered : IsRegistered name deeds)
    : registry.state? name
      = some (if (lastStamp name deeds).isSome then .armed else .disarmed) := by
  rw [← remembers.find?_isSome_iff] at registered
  obtain ⟨entry, found⟩ := Option.isSome_iff_exists.1 registered
  rw [Registry.state?, found]
  rw [remembers.find?_eq] at found
  obtain ⟨member, isMember, rfl⟩ := Option.map_eq_some_iff.1 found
  have same : member.1 = name := by simpa using List.find?_some isMember
  rw [← same]
  rfl

theorem Remembers.state?_eq_none_iff (remembers : Remembers capacity timeout deeds registry)
    : registry.state? name = none ↔ ¬ IsRegistered name deeds := by
  rw [← remembers.find?_isSome_iff, Registry.state?, Option.map_eq_none_iff,
    Option.not_isSome_iff_eq_none]

theorem Remembers.state?_eq_armed_iff (remembers : Remembers capacity timeout deeds registry)
    : registry.state? name = some .armed ↔ IsRegistered name deeds ∧ IsStarted name deeds := by
  by_cases registered : IsRegistered name deeds
  · rw [remembers.state?_eq registered, ← remembers.lastStamp_isSome_iff registered]
    by_cases stamped : (lastStamp name deeds).isSome <;> simp [registered, stamped]
  · simp [remembers.state?_eq_none_iff.2 registered, registered]

theorem Remembers.state?_eq_disarmed_iff (remembers : Remembers capacity timeout deeds registry)
    : registry.state? name = some .disarmed
      ↔ IsRegistered name deeds ∧ ¬ IsStarted name deeds := by
  by_cases registered : IsRegistered name deeds
  · rw [remembers.state?_eq registered, ← remembers.lastStamp_isSome_iff registered]
    by_cases stamped : (lastStamp name deeds).isSome <;> simp [registered, stamped]
  · simp [remembers.state?_eq_none_iff.2 registered, registered]

end

end Caretaker.Liveness
