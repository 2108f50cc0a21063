import Caretaker.Bench
import Caretaker.Proofs.Liveness.History

/-!
Visits of the canary while others are about. Somebody else may hold its lock and may fail with it,
time goes by, and the registry is used for other tasks too. All along, the entry of the canary tells
where the canary is: it is armed from the first move of a visit until the last one.
-/

namespace Caretaker.Liveness

-----------------------------------------------------------------------------
-- Entries

namespace Registry

variable {registry after : Registry} {name other : String} {change : Entry → Entry}

/-- A change of one entry that keeps its name is seen by whoever looks for this name. -/
theorem find?_modify (keepsName : ∀ entry, (change entry).name = entry.name)
    : (registry.modify name change).find? other
      = (registry.find? other).map fun entry => if entry.name = name then change entry else entry
      := by
  rw [find?, modify, List.find?_map, find?]
  congr 2
  funext entry
  simp only [Function.comp_apply]
  split <;> simp [keepsName]

theorem name_of_find? {entry : Entry} (found : registry.find? name = some entry)
    : entry.name = name := by
  simpa using List.find?_some found

theorem find?_modify_self (keepsName : ∀ entry, (change entry).name = entry.name)
    : (registry.modify name change).find? name = (registry.find? name).map change := by
  rw [find?_modify keepsName]
  refine Option.map_congr fun entry found => ?_
  rw [if_pos (name_of_find? found)]

theorem find?_modify_of_ne (keepsName : ∀ entry, (change entry).name = entry.name)
    (different : name ≠ other)
    : (registry.modify name change).find? other = registry.find? other := by
  have same : (registry.modify name change).find? other = (registry.find? other).map id := by
    rw [find?_modify keepsName]
    refine Option.map_congr fun entry found => ?_
    rw [if_neg fun same => different (same.symm.trans (name_of_find? found)), id]
  rwa [Option.map_id] at same

theorem find?_arm {time : Stamp}
    : (registry.arm name time).find? name
      = (registry.find? name).map ({ · with armedAt := some time }) :=
  find?_modify_self fun _ => rfl

theorem find?_disarm
    : (registry.disarm name).find? name = (registry.find? name).map ({ · with armedAt := none }) :=
  find?_modify_self fun _ => rfl

/-- There is nothing to change about a name that is not registered. -/
theorem modify_of_find?_eq_none (new : registry.find? name = none)
    : registry.modify name change = registry := by
  have others : ∀ entry ∈ registry.entries, entry.name ≠ name := by
    simpa [find?] using new
  have same
      : registry.entries.map (fun entry => if entry.name = name then change entry else entry)
        = registry.entries := by
    refine (List.map_congr_left fun entry member => ?_).trans (List.map_id' _)
    rw [if_neg (others entry member)]
  rw [modify, same]

theorem find?_of_register_eq_ok {own : Option UInt32}
    (enrolled : registry.register name own = .ok after) (different : name ≠ other)
    : after.find? other = registry.find? other := by
  obtain ⟨-, -, -, rfl⟩ := register_eq_ok_iff.1 enrolled
  rw [find?, List.find?_append, find?]
  simp [different]

end Registry

/-- Whether something is done about other names than one. -/
def Operation.IsAside (name : String) : Operation → Prop
  | .register other _ | .start other | .stop other => other ≠ name
  | .check => True

/-- What is done about other names leaves an entry as it is, by cases over what is done. -/
theorem Operation.IsAside.find?_eq {operation : Operation} {name : String}
    (aside : operation.IsAside name) {registry after : Registry} {events : List (Event Site)}
    {reply : Reply} (ran : Runs (operation.perform registry) events (reply, after))
    : after.find? name = registry.find? name := by
  cases operation with
  | register other own =>
    obtain ⟨-, ⟨enrolled, -⟩ | ⟨refusal, -, rfl, -⟩⟩ := perform_register_runs_iff.1 ran
    · exact Registry.find?_of_register_eq_ok enrolled aside
    · rfl
  | start other =>
    obtain ⟨isKnown, -, started⟩ := perform_start_runs_iff.1 ran
    rcases Registry.start_runs_iff.1 started with ⟨-, -, time, -, rfl⟩ | ⟨-, -, -, rfl⟩
    · exact Registry.find?_modify_of_ne (fun _ => rfl) aside
    · rfl
  | stop other =>
    obtain ⟨isKnown, -, stopped⟩ := perform_stop_runs_iff.1 ran
    rcases Registry.stop_runs_iff.1 stopped with ⟨-, -, -, rfl⟩ | ⟨-, -, -, rfl⟩
    · exact Registry.find?_modify_of_ne (fun _ => rfl) aside
    · rfl
  | check =>
    obtain ⟨rfl, -⟩ := perform_check_runs_iff.1 ran
    rfl

namespace Canary

open Bench (Stand)

-----------------------------------------------------------------------------
-- The lock

/-- Who can hold the lock. -/
inductive Party where
  | canary
  | other
deriving DecidableEq

/-- The lock of the canary. -/
structure Lock where
  holder : Option Party := none
  /-- Somebody has failed while holding it. -/
  isPoisoned : Bool := false
deriving DecidableEq

/-- The lock as it is once it is taken. The news that somebody has failed with it comes along. -/
inductive Grant where
  | sound (lock : Lock)
  | poisoned (lock : Lock)

/-- The lock, with or without the news. -/
def Grant.lock : Grant → Lock
  | .sound lock | .poisoned lock => lock

namespace Lock

/-- Take the lock. As long as somebody holds it, whoever wants it has to wait. -/
def grant? (lock : Lock) (party : Party) : Option Grant :=
  match lock.holder with
  | some _ => none
  | none =>
    let taken := { lock with holder := some party }
    some (if lock.isPoisoned then .poisoned taken else .sound taken)

/-- Give the lock back. -/
def freed (lock : Lock) : Lock :=
  { lock with holder := none }

/-- Fail while holding the lock. -/
def failed (lock : Lock) : Lock :=
  { lock with holder := none, isPoisoned := true }

/-- A free lock is taken whether or not somebody has failed with it. -/
theorem map_lock_grant? (lock : Lock) (party : Party)
    : (lock.grant? party).map Grant.lock
      = if lock.holder = none then some { lock with holder := some party } else none := by
  obtain ⟨_ | holder, isPoisoned⟩ := lock
  · cases isPoisoned <;> rfl
  · rfl

theorem lock_of_grant? {lock : Lock} {party : Party} {grant : Grant}
    (granted : lock.grant? party = some grant)
    : lock.holder = none ∧ grant.lock = { lock with holder := some party } := by
  have same := map_lock_grant? lock party
  rw [granted, Option.map_some] at same
  split at same
  · exact ⟨‹_›, Option.some.inj same⟩
  · cases same

end Lock

-----------------------------------------------------------------------------
-- A scene

/-- Where the canary is in its visits. During a visit it is known at which true time the visit
began.
-/
inductive Stage where
  | away
  /-- The entry is armed, and the lock is yet to be taken. -/
  | waiting (since : Nat)
  | holding (since : Nat)
  /-- The lock has been given back, and the entry is yet to be disarmed. -/
  | leaving (since : Nat)
deriving DecidableEq

namespace Stage

/-- When the visit that is under way began. -/
def since? : Stage → Option Nat
  | .away => none
  | .waiting since | .holding since | .leaving since => some since

/-- What the canary does next. -/
def move : Stage → Program Stand Unit
  | .away => enter
  | .waiting _ => Tasks.acquire
  | .holding _ => Tasks.release
  | .leaving _ => leave

/-- Where it is afterwards, for the time at which it does so. -/
def next (time : Nat) : Stage → Stage
  | .away => .waiting time
  | .waiting since => .holding since
  | .holding since => .leaving since
  | .leaving _ => .away

/-- All that the canary does up to the end of a visit. -/
def rest : Stage → Program Stand Unit
  | .away => visit
  | .waiting _ => do
    Tasks.acquire
    Tasks.release
    leave
  | .holding _ => do
    Tasks.release
    leave
  | .leaving _ => leave

/-- A visit is its moves, one after the other. -/
theorem rest_eq {stage : Stage} {time : Nat} (goesOn : stage.next time ≠ .away)
    : stage.rest = stage.move >>= fun _ => (stage.next time).rest := by
  cases stage with
  | away | waiting | holding => rfl
  | leaving => exact absurd rfl goesOn

end Stage

/-- What the canary works with. -/
structure Setting where
  registry : Registry
  lock : Lock := {}
  /-- The true time in milliseconds. -/
  time : Nat := 0

namespace Setting

/-- Meet a request of the canary. What cannot be met has to wait. -/
def meet : (r : Bench.Request) → StateT Setting Option (Bench.Answer r)
  | .site .now => return Stamp.ofMillis (← get).time
  | .site (.report (.say _)) => return ()
  | .registry => return (← get).registry
  | .replace registry => modify ({ · with registry := registry })
  | .acquire => do
    let setting ← get
    let grant ← setting.lock.grant? .canary
    set { setting with lock := grant.lock }
  | .release => modify fun setting => { setting with lock := setting.lock.freed }
  | .site _ | .pause _ | .stuck _ => failure

/-- What becomes of a setting while the canary goes through a program without a break. -/
def after? (setting : Setting) (p : Program Stand Unit) : Option Setting :=
  ((p.interpret meet).run setting).map Prod.snd

variable {setting : Setting}

theorem after?_bind {p q : Program Stand Unit}
    : setting.after? (p >>= fun _ => q) = (setting.after? p).bind (·.after? q) := by
  rw [after?, Program.interpret_bind, StateT.run_bind, after?]
  cases (p.interpret meet).run setting <;> rfl

theorem after?_registry_bind {f : Registry → Program Stand Unit}
    : setting.after? (Tasks.registry >>= f) = setting.after? (f setting.registry) := rfl

/-- Arming comes to the same if the canary is not registered, as there is nothing to arm then. -/
theorem after?_enter
    : setting.after? enter
      = some { setting with
          registry := setting.registry.arm name (Stamp.ofMillis setting.time) } := by
  rw [enter, after?_registry_bind, Registry.start]
  cases found : setting.registry.find? name with
  | none =>
    have same : setting.registry.arm name (Stamp.ofMillis setting.time) = setting.registry :=
      Registry.modify_of_find?_eq_none found
    rw [same, if_neg (by simp)]
    rfl
  | some entry =>
    rw [if_pos (by simp)]
    rfl

theorem after?_leave
    : setting.after? leave = some { setting with registry := setting.registry.disarm name } := by
  rw [leave, after?_registry_bind, Registry.stop]
  cases found : setting.registry.find? name with
  | none =>
    have same : setting.registry.disarm name = setting.registry :=
      Registry.modify_of_find?_eq_none found
    rw [same, if_neg (by simp)]
    rfl
  | some entry =>
    rw [if_pos (by simp)]
    rfl

/-- The canary takes its lock with or without the news that somebody has failed with it. -/
theorem after?_acquire
    : setting.after? Tasks.acquire
      = if setting.lock.holder = none then
          some { setting with lock := { setting.lock with holder := some .canary } }
        else
          none := by
  obtain ⟨registry, ⟨_ | holder, isPoisoned⟩, time⟩ := setting
  · cases isPoisoned <;> rfl
  · rfl

theorem after?_release
    : setting.after? Tasks.release = some { setting with lock := setting.lock.freed } := rfl

end Setting

-----------------------------------------------------------------------------
-- What happens

/-- The canary somewhere in its visits, and what it works with. -/
structure Scene extends Setting where
  stage : Stage := .away

/-- What becomes of a scene by the next move of the canary. -/
def Scene.moved? (scene : Scene) : Option Scene :=
  (scene.after? scene.stage.move).map (⟨·, scene.stage.next scene.time⟩)

/-- What happens on a scene. -/
inductive Happening where
  /-- The canary makes its next move. -/
  | moved
  /-- Somebody else takes the lock, gives it back, or fails while holding it. -/
  | taken
  | returned
  | failed
  | elapsed (millis : Nat)
  /-- The registry is used for other tasks, or there is a look for stuck tasks. -/
  | done (deed : Deed)

/-- One thing happens. During a visit less than half the range of the clock goes by, and whoever
reads the clock reads the stamp of the true time.
-/
inductive Step (scene : Scene) : Happening → Scene → Prop where
  | moves {after : Scene} (moved : scene.moved? = some after) : Step scene .moved after
  | takes {grant : Grant} (granted : scene.lock.grant? .other = some grant)
      : Step scene .taken { scene with lock := grant.lock }
  | returns (held : scene.lock.holder = some .other)
      : Step scene .returned { scene with lock := scene.lock.freed }
  | fails (held : scene.lock.holder = some .other)
      : Step scene .failed { scene with lock := scene.lock.failed }
  | elapses {millis : Nat}
      (short : ∀ since ∈ scene.stage.since?, scene.time + millis - since < UInt32.size / 2)
      : Step scene (.elapsed millis) { scene with time := scene.time + millis }
  | does {operation : Operation} {events : List (Event Site)} {reply : Reply} {after : Registry}
      (aside : operation.IsAside name)
      (ran : Runs (operation.perform scene.registry) events (reply, after))
      (timed : ∀ reading, ⟨.now, reading⟩ ∈ events → reading = Stamp.ofMillis scene.time)
      : Step scene (.done ⟨operation, events, reply⟩) { scene with registry := after }

/-- Whatever happens on a scene, in order, and what has become of it. -/
inductive Course (first : Scene) : List Happening → Scene → Prop where
  | still : Course first [] first
  | next {happenings : List Happening} {scene after : Scene} {happening : Happening}
      (earlier : Course first happenings scene) (step : Step scene happening after)
      : Course first (happenings ++ [happening]) after

variable {scene after first middle last : Scene} {happening : Happening}
variable {happenings : List Happening}

theorem Course.cons (step : Step first happening middle) (course : Course middle happenings last)
    : Course first (happening :: happenings) last := by
  induction course with
  | still => exact .next .still step
  | next _ further ih => exact .next ih further

/-- What the next move of the canary comes to. It has to wait in one place only, and there just as
long as somebody holds the lock.
-/
theorem Scene.moved?_eq
    : scene.moved?
      = match scene.stage with
        | .away =>
          some { scene with
            registry := scene.registry.arm name (Stamp.ofMillis scene.time)
            stage := .waiting scene.time }
        | .waiting since =>
          if scene.lock.holder = none then
            some { scene with
              lock := { scene.lock with holder := some .canary }
              stage := .holding since }
          else
            none
        | .holding since => some { scene with lock := scene.lock.freed, stage := .leaving since }
        | .leaving _ =>
          some { scene with registry := scene.registry.disarm name, stage := .away } := by
  obtain ⟨setting, stage⟩ := scene
  rw [moved?]
  cases stage with
  | away => rw [Stage.move, Setting.after?_enter]; rfl
  | waiting since =>
    rw [Stage.move, Setting.after?_acquire]
    dsimp only
    split <;> rfl
  | holding since => rw [Stage.move, Setting.after?_release]; rfl
  | leaving since => rw [Stage.move, Setting.after?_leave]; rfl

/-- Nothing but somebody who holds the lock can keep the canary from its next move. -/
theorem Scene.moved?_isSome_iff
    : scene.moved?.isSome ↔ ((∃ since, scene.stage = .waiting since) → scene.lock.holder = none)
    := by
  rw [moved?_eq]
  cases scene.stage with
  | away | holding | leaving => simp
  | waiting since =>
    dsimp only
    split <;> simp [*]

-----------------------------------------------------------------------------
-- Whole visits

/-- With a number of moves and nothing in between, the canary gets to the end of its visit. It does
so by what is left of the visit.
-/
def Scene.Finishes (scene : Scene) : Prop :=
  ∃ moves after, Course scene (List.replicate moves .moved) after
    ∧ after.stage = .away
    ∧ scene.after? scene.stage.rest = some after.toSetting

theorem Scene.Finishes.of_next (finishes : after.Finishes) (moved : scene.moved? = some after)
    (goesOn : scene.stage.next scene.time ≠ .away)
    : scene.Finishes := by
  obtain ⟨moves, last, course, isAway, isRest⟩ := finishes
  obtain ⟨setting, isMove, rfl⟩ := Option.map_eq_some_iff.1 moved
  refine ⟨moves + 1, last, .cons (.moves moved) course, isAway, ?_⟩
  rw [Stage.rest_eq goesOn, Setting.after?_bind, isMove]
  exact isRest

/-- Once the lock is given back, only the entry is left to be disarmed. -/
theorem Scene.finishes_of_leaving {since : Nat} (isLeaving : scene.stage = .leaving since)
    : scene.Finishes := by
  have moved := scene.moved?_eq
  rw [isLeaving] at moved
  refine ⟨1, _, .next .still (.moves moved), rfl, ?_⟩
  rw [isLeaving, Stage.rest, Setting.after?_leave]

/-- Whoever holds the lock can give it back. -/
theorem Scene.finishes_of_holding {since : Nat} (isHolding : scene.stage = .holding since)
    : scene.Finishes := by
  have moved := scene.moved?_eq
  rw [isHolding] at moved
  refine (finishes_of_leaving rfl).of_next moved ?_
  rw [isHolding]
  exact nofun

/-- Whoever waits for a free lock can take it, whether or not somebody has failed with it. -/
theorem Scene.finishes_of_waiting {since : Nat} (isWaiting : scene.stage = .waiting since)
    (free : scene.lock.holder = none)
    : scene.Finishes := by
  have moved := scene.moved?_eq
  rw [isWaiting] at moved
  dsimp only at moved
  rw [if_pos free] at moved
  refine (finishes_of_holding rfl).of_next moved ?_
  rw [isWaiting]
  exact nofun

/-- A visit can begin at any time. -/
theorem Scene.finishes_of_away (isAway : scene.stage = .away) (free : scene.lock.holder = none)
    : scene.Finishes := by
  have moved := scene.moved?_eq
  rw [isAway] at moved
  dsimp only at moved
  refine .of_next ?_ moved ?_
  · exact finishes_of_waiting rfl free
  · rw [isAway]
    exact nofun

-----------------------------------------------------------------------------
-- What holds all along

/-- The canary is away, its entry is not armed, and it does not hold its lock. -/
structure Scene.Begins (scene : Scene) : Prop where
  away : scene.stage = .away
  disarmed : scene.registry.state? name ≠ some .armed
  unheld : scene.lock.holder ≠ some .canary

/-- The entry of the canary bears the stamp of the visit that is under way, which began less than
half the range of the clock ago, and the canary holds its lock where it should.
-/
structure Scene.Tells (initial : Option Entry) (scene : Scene) : Prop where
  entry : scene.registry.find? name
    = initial.map ({ · with armedAt := scene.stage.since?.map Stamp.ofMillis })
  holds : scene.lock.holder = some .canary ↔ ∃ since, scene.stage = .holding since
  recent : ∀ since ∈ scene.stage.since?, since ≤ scene.time ∧ scene.time - since < UInt32.size / 2

theorem Scene.Begins.tells (begins : scene.Begins)
    : scene.Tells (scene.registry.find? name) where
  entry := by
    have disarmed := begins.disarmed
    rw [Registry.state?] at disarmed
    rw [begins.away]
    cases found : scene.registry.find? name with
    | none => rfl
    | some entry =>
      obtain ⟨called, _ | armedAt, own⟩ := entry
      · rfl
      · rw [found] at disarmed
        exact absurd rfl disarmed
  holds := by
    rw [begins.away]
    simpa using begins.unheld
  recent := by
    rw [begins.away]
    intro since isSince
    cases isSince

/-- The entry tells where the canary is after each of its moves. By the places in a visit. -/
theorem Scene.Tells.moves {initial : Option Entry} (tells : scene.Tells initial)
    (moved : scene.moved? = some after)
    : after.Tells initial := by
  obtain ⟨setting, stage⟩ := scene
  have found := tells.entry
  have holds := tells.holds
  rw [moved?_eq] at moved
  cases stage with
  | away =>
    cases moved
    refine ⟨?_, ?_, ?_⟩
    · rw [Registry.find?_arm, found, Option.map_map]
      rfl
    · simpa using holds
    · intro since isSince
      cases isSince
      rw [Nat.sub_self]
      exact ⟨Nat.le_refl _, by decide⟩
  | waiting since =>
    dsimp only at moved
    split at moved
    · cases moved
      exact ⟨found, by simp, tells.recent⟩
    · cases moved
  | holding since =>
    cases moved
    exact ⟨found, by simp [Lock.freed], tells.recent⟩
  | leaving since =>
    cases moved
    refine ⟨?_, by simpa using holds, nofun⟩
    rw [Registry.find?_disarm, found, Option.map_map]
    rfl

/-- The entry tells where the canary is, whatever happens next. By cases over what happens. -/
theorem Scene.Tells.next {initial : Option Entry} (tells : scene.Tells initial)
    (step : Step scene happening after)
    : after.Tells initial := by
  obtain ⟨found, holds, recent⟩ := tells
  cases step with
  | moves moved => exact Scene.Tells.moves ⟨found, holds, recent⟩ moved
  | takes granted =>
    obtain ⟨free, taken⟩ := Lock.lock_of_grant? granted
    rw [free] at holds
    refine ⟨found, ?_, recent⟩
    rw [taken]
    simpa using holds
  | returns held | fails held =>
    rw [held] at holds
    exact ⟨found, by simpa [Lock.freed, Lock.failed] using holds, recent⟩
  | elapses short =>
    refine ⟨found, holds, fun since isSince => ⟨?_, short since isSince⟩⟩
    exact Nat.le_add_right_of_le (recent since isSince).1
  | does aside ran timed => exact ⟨(aside.find?_eq ran).trans found, holds, recent⟩

/-- The entry tells where the canary is all along, by induction over what happens. -/
theorem Course.tells (course : Course first happenings scene) (begins : first.Begins)
    : scene.Tells (first.registry.find? name) := by
  induction course with
  | still => exact begins.tells
  | next _ step ih => exact ih.next step

end Canary

end Caretaker.Liveness
