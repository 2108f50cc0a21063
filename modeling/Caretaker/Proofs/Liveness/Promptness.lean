import Caretaker.Proofs.Liveness.Overdue
import Caretaker.Proofs.Liveness.Passes

/-!
How promptly a hanging task is reported. The first pass at which it has been armed for longer than
the timeout reports it as long as the time that has passed is within half the range of the clock,
which depends on the timeout and the interval between passes.
-/

namespace Caretaker.Liveness

variable {policy : Policy} {registry : Registry} {name : String} {armedAt begun pass time : Nat}

-----------------------------------------------------------------------------
-- Hanging tasks and the passes over them

/-- A task hangs: it was registered without a timeout of its own, it was started at a true time, and
it has been neither started nor stopped since.
-/
def Hangs (policy : Policy) (registry : Registry) (name : String) (armedAt : Nat) : Prop :=
  ∃ capacity deeds deed, History capacity policy.stuckMillis deeds registry
    ∧ (name, none) ∈ roster deeds
    ∧ lastTouch name deeds = some deed
    ∧ deed.operation = .start name
    ∧ deed.stamp? = some (Stamp.ofMillis armedAt)

/-- The true time of a pass of a patrol that has begun at some time, with a pause before each
pass.
-/
def passTime (policy : Policy) (begun pass : Nat) : Nat :=
  begun + (pass + 1) * policy.patrolMillis.toNat

/-- The first pass at which more than the timeout has gone by since a true time, at which the patrol
was under way.
-/
structure FirstBeyond (policy : Policy) (begun armedAt pass : Nat) : Prop where
  underWay : begun ≤ armedAt
  beyond : policy.stuckMillis.toNat < passTime policy begun pass - armedAt
  first : ∀ earlier < pass, passTime policy begun earlier - armedAt ≤ policy.stuckMillis.toNat

/-- Every pass at a true time hands the task to the handler. -/
def Catches (policy : Policy) (registry : Registry) (time : Nat) (name : String) : Prop :=
  ∀ looking handled,
    Patrol.Passes (escalate policy.escalation) registry looking handled
    → (∀ e ∈ looking, e = ⟨.now, Stamp.ofMillis time⟩)
    → ∃ task asked, (task, asked) ∈ handled ∧ task.name = name

/-- Every hanging task is caught by the first pass at which it has been armed for longer than the
timeout.
-/
def Prompt (policy : Policy) : Prop :=
  ∀ registry name armedAt begun pass, Hangs policy registry name armedAt
    → FirstBeyond policy begun armedAt pass
    → Catches policy registry (passTime policy begun pass) name

-----------------------------------------------------------------------------
-- Which passes catch a task

theorem Remembers.eq_of_name_eq {capacity : Nat} {timeout : UInt32} {deeds : List Deed}
    {one other : Armed} (remembers : Remembers capacity timeout deeds registry)
    (isOne : one ∈ armedTasks deeds) (isOther : other ∈ armedTasks deeds)
    (same : one.name = other.name)
    : one = other := by
  have distinct := remembers.armedTasks_nodup
  rw [List.Nodup, List.pairwise_map, List.pairwise_iff_getElem] at distinct
  obtain ⟨i, inRange, rfl⟩ := List.mem_iff_getElem.1 isOne
  obtain ⟨j, inRange', rfl⟩ := List.mem_iff_getElem.1 isOther
  rcases Nat.lt_trichotomy i j with less | rfl | greater
  · exact absurd same (distinct i j inRange inRange' less)
  · rfl
  · exact absurd same.symm (distinct j i inRange' inRange greater)

/-- If the clock always reads the same, each armed name is looked at with this reading. By induction
over the names.
-/
theorem overdue_of_forall_eq {fallback : UInt32} {tasks : List Armed} {readings : List Stamp}
    {reading : Stamp} (length : readings.length = tasks.length)
    (same : ∀ r ∈ readings, r = reading)
    : overdue fallback tasks readings = tasks.filterMap (·.overdue? fallback reading) := by
  induction tasks generalizing readings with
  | nil =>
    obtain rfl := List.length_eq_zero_iff.1 length
    rfl
  | cons task rest ih =>
    cases readings with
    | nil => cases length
    | cons first others =>
      obtain rfl := same first (List.mem_cons_self ..)
      rw [overdue_cons, List.filterMap_cons,
        ih (Nat.succ.inj length) fun r member => same r (List.mem_cons_of_mem _ member)]
      cases task.overdue? fallback first <;> rfl

/-- A look for stuck tasks at one time finds the armed names that are overdue by then. -/
theorem Remembers.found_at {capacity : Nat} {timeout : UInt32} {deeds : List Deed}
    {looking : List (Event Site)} {found : List Stuck}
    (remembers : Remembers capacity timeout deeds registry)
    (looks : Runs (registry.stuck : Program Site _) looking found)
    (atOnce : ∀ e ∈ looking, e = ⟨.now, Stamp.ofMillis time⟩)
    : found = (armedTasks deeds).filterMap (·.overdue? timeout (Stamp.ofMillis time)) := by
  obtain ⟨readings, length, rfl, rfl⟩ := remembers.stuck_runs_iff.1 looks
  refine overdue_of_forall_eq length fun reading member => ?_
  cases atOnce _ (List.mem_map_of_mem member)
  rfl

/-- The clock stands at one time, and nothing else happens at the site. -/
def clockAt (time : Nat) : (r : Site.Request) → Site.Answer r
  | .now => Stamp.ofMillis time
  | r => Site.steady .nothing .deferred r

/-- A look for stuck tasks at any time is possible: what it asks for is nothing but the time. -/
theorem Registry.mem_follow_stuck (registry : Registry) (time : Nat)
    : ∀ e ∈ (registry.stuck.follow (S := Site) (clockAt time)).1,
      e = ⟨.now, Stamp.ofMillis time⟩ := by
  intro e member
  have looks := Runs.follow (S := Site) (clockAt time) registry.stuck
  have isReading := Program.Only.of_runs looks (Registry.stuckAmong_only ..) e member
  have answered := Program.answer_of_mem_follow (clockAt time) registry.stuck e member
  obtain ⟨r, answer⟩ := e
  cases isReading
  exact congrArg (Event.mk (S := Site) Site.Request.now) answered

theorem exists_pass_at (policy : Policy) (registry : Registry) (time : Nat)
    : ∃ looking handled, Patrol.Passes (escalate policy.escalation) registry looking handled
      ∧ ∀ e ∈ looking, e = ⟨.now, Stamp.ofMillis time⟩ :=
  ⟨_, _, Patrol.Passes.follow (S := Site) _ (clockAt time) registry,
    registry.mem_follow_stuck time⟩

/-- A pass catches an armed task exactly if a report about it is due. -/
theorem Remembers.catches_iff {capacity : Nat} {deeds : List Deed} {task : Armed}
    (remembers : Remembers capacity policy.stuckMillis deeds registry)
    (isArmed : task ∈ armedTasks deeds)
    : Catches policy registry time task.name
      ↔ ∃ report, task.overdue? policy.stuckMillis (Stamp.ofMillis time) = some report := by
  constructor
  · intro catches
    obtain ⟨looking, handled, passes, atOnce⟩ := exists_pass_at policy registry time
    obtain ⟨report, asked, member, isName⟩ := catches looking handled passes atOnce
    have inFound : report ∈ handled.map Prod.fst := List.mem_map_of_mem member
    rw [remembers.found_at passes.looks atOnce] at inFound
    obtain ⟨other, isOther, isReport⟩ := List.mem_filterMap.1 inFound
    have sameName : other.name = task.name := (Armed.name_of_overdue? isReport).symm.trans isName
    obtain rfl := remembers.eq_of_name_eq isOther isArmed sameName
    exact ⟨report, isReport⟩
  · intro due looking handled passes atOnce
    obtain ⟨report, isReport⟩ := due
    have inFound : report ∈ handled.map Prod.fst := by
      rw [remembers.found_at passes.looks atOnce]
      exact List.mem_filterMap.2 ⟨task, isArmed, isReport⟩
    obtain ⟨⟨report, asked⟩, member, rfl⟩ := List.mem_map.1 inFound
    exact ⟨report, asked, member, Armed.name_of_overdue? isReport⟩

theorem Hangs.exists_armed (hangs : Hangs policy registry name armedAt)
    : ∃ capacity deeds, Remembers capacity policy.stuckMillis deeds registry
      ∧ ⟨name, none, Stamp.ofMillis armedAt⟩ ∈ armedTasks deeds := by
  obtain ⟨capacity, deeds, deed, history, registered, last, -, stamped⟩ := hangs
  have stamp : lastStamp name deeds = some (Stamp.ofMillis armedAt) := by
    rw [lastStamp, last, Option.bind_some, stamped]
  exact ⟨capacity, deeds, history.remembers,
    List.mem_filterMap.2 ⟨(name, none), registered, by simp [stamp]⟩⟩

/-- A pass catches a hanging task exactly if the difference of the two readings of the clock is
beyond the timeout and within half its range.
-/
theorem Hangs.catches_iff (hangs : Hangs policy registry name armedAt)
    : Catches policy registry time name
      ↔ policy.stuckMillis.toNat
          < (Stamp.since (Stamp.ofMillis armedAt) (Stamp.ofMillis time)).toNat
        ∧ (Stamp.since (Stamp.ofMillis armedAt) (Stamp.ofMillis time)).toNat ≤ 0x7fffffff := by
  obtain ⟨capacity, deeds, remembers, isArmed⟩ := hangs.exists_armed
  rw [remembers.catches_iff isArmed, ← Armed.stuck?_entry, Entry.stuck?_eq]
  constructor
  · intro due
    obtain ⟨report, isReport⟩ := due
    split at isReport
    · assumption
    · cases isReport
  · intro within
    exact ⟨_, if_pos within⟩

-----------------------------------------------------------------------------
-- The first pass beyond the timeout

/-- No more than an interval goes by between the end of the timeout and the first pass behind it. -/
theorem FirstBeyond.within (firstBeyond : FirstBeyond policy begun armedAt pass)
    : passTime policy begun pass - armedAt
      ≤ policy.stuckMillis.toNat + policy.patrolMillis.toNat := by
  have underWay := firstBeyond.underWay
  cases pass with
  | zero =>
    -- The patrol was under way at the start, so its first pass comes within an interval of it.
    rw [passTime, Nat.zero_add, Nat.one_mul]
    omega
  | succ earlier =>
    have before := firstBeyond.first earlier (Nat.lt_succ_self earlier)
    have next : passTime policy begun (earlier + 1)
        = passTime policy begun earlier + policy.patrolMillis.toNat := by
      rw [passTime, passTime, Nat.succ_mul, Nat.add_assoc]
    omega

/-- The first pass beyond the timeout catches a hanging task exactly if the true time since its
start is within half the range of the clock.
-/
theorem Hangs.caught_iff (hangs : Hangs policy registry name armedAt)
    (firstBeyond : FirstBeyond policy begun armedAt pass)
    : Catches policy registry (passTime policy begun pass) name
      ↔ passTime policy begun pass - armedAt ≤ 0x7fffffff := by
  have beyond := firstBeyond.beyond
  have within := firstBeyond.within
  have timeout := UInt32.toNat_lt policy.stuckMillis
  have interval := UInt32.toNat_lt policy.patrolMillis
  rw [hangs.catches_iff]
  generalize passTime policy begun pass = time at *
  rw [Stamp.toNat_since, Stamp.ofMillis, Stamp.ofMillis, UInt32.toNat_ofNat', UInt32.toNat_ofNat']
  simp only [UInt32.size] at *
  omega

/-- A pump can hang from any time on. -/
theorem exists_hangs (policy : Policy) (armedAt : Nat)
    : ∃ registry, Hangs policy registry "pump" armedAt := by
  let time := Stamp.ofMillis armedAt
  let line := Site.said .debug Registry.origin "Task watchdog 'pump' registered"
  let registered : Deed := ⟨.register "pump" none, [line], .registered (.ok ())⟩
  let started : Deed := ⟨.start "pump", [⟨.now, time⟩], .known true⟩
  have isNew
      : Registry.register ⟨1, policy.stuckMillis, []⟩ "pump" none
        = .ok ⟨1, policy.stuckMillis, [⟨"pump", none, none⟩]⟩ :=
    Registry.register_eq_ok_iff.2 ⟨by decide, rfl, Nat.zero_lt_one, rfl⟩
  have registers
      : Runs (registered.operation.perform ⟨1, policy.stuckMillis, []⟩) registered.events
          (registered.reply, ⟨1, policy.stuckMillis, [⟨"pump", none, none⟩]⟩) :=
    Operation.perform_register_runs_iff.2 ⟨by rw [isNew]; rfl, .inl ⟨isNew, rfl⟩⟩
  have starts
      : Runs (started.operation.perform ⟨1, policy.stuckMillis, [⟨"pump", none, none⟩]⟩)
          started.events
          (started.reply, ⟨1, policy.stuckMillis, [⟨"pump", some time, none⟩]⟩) :=
    Operation.perform_start_runs_iff.2
      ⟨true, rfl, Registry.start_runs_iff.2 (.inl ⟨rfl, rfl, time, rfl, rfl⟩)⟩
  exact ⟨_, 1, [registered, started], started, .next (.next .fresh registers) starts,
    List.mem_singleton_self _, rfl, rfl, rfl⟩

/-- The time between a start and the first pass beyond the timeout can be as long as the timeout and
an interval together: the pass before comes just when the timeout ends.
-/
theorem exists_firstBeyond (interval : policy.patrolMillis ≠ 0)
    : ∃ begun armedAt pass, FirstBeyond policy begun armedAt pass
      ∧ passTime policy begun pass - armedAt
        = policy.stuckMillis.toNat + policy.patrolMillis.toNat := by
  have positive : 0 < policy.patrolMillis.toNat :=
    Nat.pos_of_ne_zero fun zero => interval (UInt32.toNat_inj.1 zero)
  generalize isTimeout : policy.stuckMillis.toNat = timeout
  have late : timeout ≤ timeout * policy.patrolMillis.toNat := Nat.le_mul_of_pos_right _ positive
  have last : passTime policy 0 timeout
      = timeout * policy.patrolMillis.toNat + policy.patrolMillis.toNat := by
    rw [passTime, Nat.zero_add, Nat.succ_mul]
  -- The task is started a timeout before some pass, at which it is not overdue just yet.
  refine ⟨0, timeout * policy.patrolMillis.toNat - timeout, timeout, ⟨Nat.zero_le _, ?_, ?_⟩, ?_⟩
  · omega
  · intro earlier before
    have bound : passTime policy 0 earlier ≤ timeout * policy.patrolMillis.toNat := by
      rw [passTime, Nat.zero_add]
      exact Nat.mul_le_mul_right _ before
    omega
  · omega

/-- A sound policy does not make every hanging task known in time. The first pass beyond the timeout
catches a task exactly if the true time since its start is within half the range of the clock, and
this holds for every task exactly if the timeout and the interval between passes together are.
-/
theorem prompt_iff (sound : policy.Sound)
    : (∀ registry name armedAt begun pass, Hangs policy registry name armedAt
        → FirstBeyond policy begun armedAt pass
        → (Catches policy registry (passTime policy begun pass) name
          ↔ passTime policy begun pass - armedAt ≤ 0x7fffffff))
      ∧ (Prompt policy ↔ policy.stuckMillis.toNat + policy.patrolMillis.toNat ≤ 0x7fffffff) := by
  refine ⟨fun _ _ _ _ _ => Hangs.caught_iff, ?_⟩
  constructor
  · intro prompt
    obtain ⟨-, interval, -⟩ := Policy.sound_iff.1 sound
    obtain ⟨begun, armedAt, pass, firstBeyond, longest⟩ := exists_firstBeyond interval
    obtain ⟨registry, hangs⟩ := exists_hangs policy armedAt
    have caught := prompt registry "pump" armedAt begun pass hangs firstBeyond
    rw [← longest]
    exact (hangs.caught_iff firstBeyond).1 caught
  · intro short registry name armedAt begun pass hangs firstBeyond
    exact (hangs.caught_iff firstBeyond).2 (Nat.le_trans firstBeyond.within short)

/-- The policy of a new device makes every hanging task known in time. -/
theorem prompt_iff_default
    : Policy.Sound {} ∧ Prompt {}
      ∧ ∃ registry, Hangs {} registry "pump" 0 ∧ FirstBeyond {} 0 0 1
        ∧ Catches {} registry 2000 "pump" := by
  obtain ⟨caught, prompt⟩ := prompt_iff Policy.sound_default
  obtain ⟨registry, hangs⟩ := exists_hangs {} 0
  have firstBeyond : FirstBeyond {} 0 0 1 := by
    refine ⟨Nat.le_refl 0, by decide, ?_⟩
    intro earlier before
    obtain rfl : earlier = 0 := by omega
    decide
  exact ⟨Policy.sound_default, prompt.2 (by decide), registry, hangs, firstBeyond,
    (caught registry "pump" 0 0 1 hangs firstBeyond).2 (by decide)⟩

/-- With a timeout of more than half the range of the clock, a policy is sound and the first pass
beyond the timeout misses a pump that hangs.
-/
theorem sound_not_prompt
    : let policy : Policy := { stuckMillis := 3000000000 }
      policy.Sound ∧ ∃ registry, Hangs policy registry "pump" 0 ∧ FirstBeyond policy 0 0 3000000
        ∧ passTime policy 0 3000000 = 3000001000
        ∧ ¬ Catches policy registry 3000001000 "pump" := by
  intro policy
  obtain ⟨registry, hangs⟩ := exists_hangs policy 0
  have timeout : policy.stuckMillis.toNat = 3000000000 := rfl
  have times (pass : Nat) : passTime policy 0 pass = 0 + (pass + 1) * 1000 := rfl
  have last : passTime policy 0 3000000 = 3000001000 := times 3000000
  have firstBeyond : FirstBeyond policy 0 0 3000000 := by
    refine ⟨Nat.le_refl 0, ?_, ?_⟩
    · omega
    · intro earlier before
      have time := times earlier
      omega
  refine ⟨by decide, registry, hangs, firstBeyond, last, ?_⟩
  rw [← last, hangs.caught_iff firstBeyond]
  omega

end Caretaker.Liveness
