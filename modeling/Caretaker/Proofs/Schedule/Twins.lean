import Mathlib.Data.List.Forall2
import Caretaker.Proofs.Program.Veil
import Caretaker.Schedule

/-!
Tasks behind a veil. If every job is its own twin and the world reacts alike to requests that look
the same, then two schedules that start in worlds that look the same stay in step: the same task
runs at the same time in both, each is its twin, and both come to the same ending.
-/

namespace Caretaker

/-- The same comes of two requests, with answers that match. -/
inductive Reaction.Twin {A B Job : Type} (R : A → B → Prop)
    : Reaction A Job → Reaction B Job → Prop where
  | answer {a : A} {b : B} (related : R a b) : Twin R (.answer a) (.answer b)
  | later {a : A} {b : B} (millis : Nat) (related : R a b)
      : Twin R (.later millis a) (.later millis b)
  | fork {a : Nat → A} {b : Nat → B} (job : Job) (related : ∀ task, R (a task) (b task))
      : Twin R (.fork job a) (.fork job b)
  | acquire {a : A} {b : B} (related : R a b) : Twin R (.acquire a) (.acquire b)
  | release {a : A} {b : B} (related : R a b) : Twin R (.release a) (.release b)
  | join {a : A} {b : B} (task : Nat) (related : R a b) : Twin R (.join task a) (.join task b)
  | exit (code : Nat) : Twin R (.exit code) (.exit code)

namespace Schedule

variable {S : Signature} {Job World : Type}

/-- In worlds that look the same, requests that look the same come to the same, and leave worlds
that look the same.
-/
def Blind (v : Veil S) (Same : World → World → Prop)
    (react : Nat → (r : S.Request) → World → Reaction (S.Answer r) Job × World)
    : Prop :=
  ∀ time r r' w w', v.Likens r r' → Same w w'
    → Reaction.Twin (v.Matches r r') (react time r w).1 (react time r' w').1
      ∧ Same (react time r w).2 (react time r' w').2

/-- Tasks wait for the same time with twins as their remainders. -/
structure Waiting.Twin (v : Veil S) (w w' : Waiting S Job) : Prop where
  due : w.due = w'.due
  task : w.task = w'.task
  rest : Caretaker.Twin v Eq w.rest w'.rest

/-- Tasks want the lock with twins as their remainders. -/
def WantingTwin (v : Veil S) (t t' : Nat × Remainder S Job) : Prop :=
  t.1 = t'.1 ∧ Caretaker.Twin v Eq t.2 t'.2

/-- Tasks wait for the end of the same one with twins as their remainders. -/
def JoiningTwin (v : Veil S) (t t' : Nat × Nat × Remainder S Job) : Prop :=
  t.1 = t'.1 ∧ t.2.1 = t'.2.1 ∧ Caretaker.Twin v Eq t.2.2 t'.2.2

/-- The same is true of two states, but that their worlds only look the same and the remainders of
the tasks in them are twins.
-/
structure State.Twin (v : Veil S) (Same : World → World → Prop) (s s' : State S Job World)
    : Prop where
  world : Same s.world s'.world
  time : s.time = s'.time
  nextTask : s.nextTask = s'.nextTask
  waiting : List.Forall₂ (Waiting.Twin v) s.waiting s'.waiting
  isLocked : s.isLocked = s'.isLocked
  wanting : List.Forall₂ (WantingTwin v) s.wanting s'.wanting
  joining : List.Forall₂ (JoiningTwin v) s.joining s'.joining
  ended : s.ended = s'.ended

/-- Tasks stopped for the same reason. -/
inductive Stop.Twin (v : Veil S) : Stop S Job → Stop S Job → Prop where
  | finished (next : Option Job) : Twin v (.finished next) (.finished next)
  | pausing {rest rest' : Remainder S Job} (millis : Nat) (twin : Caretaker.Twin v Eq rest rest')
      : Twin v (.pausing millis rest) (.pausing millis rest')
  | wanting {rest rest' : Remainder S Job} (twin : Caretaker.Twin v Eq rest rest')
      : Twin v (.wanting rest) (.wanting rest')
  | joining {rest rest' : Remainder S Job} (task : Nat) (twin : Caretaker.Twin v Eq rest rest')
      : Twin v (.joining task rest) (.joining task rest')
  | exited (code : Nat) : Twin v (.exited code) (.exited code)

section

variable {v : Veil S} {Same : World → World → Prop} {s s' : State S Job World}
  {rest rest' : Remainder S Job}

/-- A task takes the same place among those that wait, by induction over them. -/
theorem insert_twin {w w' : Waiting S Job} {others others' : List (Waiting S Job)}
    (first : w.Twin v w') (twins : List.Forall₂ (Waiting.Twin v) others others')
    : List.Forall₂ (Waiting.Twin v) (insert w others) (insert w' others') := by
  induction twins with
  | nil => exact .cons first .nil
  | @cons o o' _ _ twin twins ih =>
    rw [insert, insert, ← first.due, ← twin.due]
    split
    · exact .cons twin ih
    · exact .cons first (.cons twin twins)

theorem filter_twin {tasks tasks' : List (Nat × Nat × Remainder S Job)} (keeps : Nat → Bool)
    (twins : List.Forall₂ (JoiningTwin v) tasks tasks')
    : List.Forall₂ (JoiningTwin v) (tasks.filter fun t => keeps t.1)
        (tasks'.filter fun t => keeps t.1) := by
  refine List.rel_filter (fun t t' same => ?_) twins
  dsimp only
  rw [same.1]

namespace State.Twin

theorem delay (twin : s.Twin v Same s') (millis task : Nat) (rests : Caretaker.Twin v Eq rest rest')
    : (s.delay millis task rest).Twin v Same (s'.delay millis task rest') where
  world := twin.world
  time := twin.time
  nextTask := twin.nextTask
  waiting := insert_twin ⟨congrArg (· + millis) twin.time, rfl, rests⟩ twin.waiting
  isLocked := twin.isLocked
  wanting := twin.wanting
  joining := twin.joining
  ended := twin.ended

/-- A task goes behind the others that want the lock. -/
theorem want (twin : s.Twin v Same s') (task : Nat) (rests : Caretaker.Twin v Eq rest rest')
    : State.Twin v Same { s with wanting := s.wanting ++ [(task, rest)] }
        { s' with wanting := s'.wanting ++ [(task, rest')] } :=
  { twin with wanting := List.rel_append twin.wanting (.cons ⟨rfl, rests⟩ .nil) }

/-- A task goes behind the others that wait for the end of one. -/
theorem await (twin : s.Twin v Same s') (other task : Nat)
    (rests : Caretaker.Twin v Eq rest rest')
    : State.Twin v Same { s with joining := s.joining ++ [(other, task, rest)] }
        { s' with joining := s'.joining ++ [(other, task, rest')] } :=
  { twin with joining := List.rel_append twin.joining (.cons ⟨rfl, rfl, rests⟩ .nil) }

/-- The first task that wants the lock takes its turn in both states. -/
theorem unlock (twin : s.Twin v Same s') : s.unlock.Twin v Same s'.unlock := by
  have wanting := twin.wanting
  unfold State.unlock
  generalize s.wanting = tasks at wanting ⊢
  generalize s'.wanting = tasks' at wanting ⊢
  cases wanting with
  | nil => exact { twin with isLocked := rfl, wanting := .nil }
  | @cons first first' others others' same wanting =>
    obtain ⟨task, rest⟩ := first
    obtain ⟨task', rest'⟩ := first'
    obtain ⟨rfl, rests⟩ := same
    have moved : State.Twin v Same { s with wanting := others } { s' with wanting := others' } :=
      { twin with wanting := wanting }
    exact moved.delay 0 task rests

/-- Tasks that have been freed wait no longer than for their turn, by induction over them. -/
theorem free {freed freed' : List (Nat × Nat × Remainder S Job)} (twin : s.Twin v Same s')
    (same : List.Forall₂ (JoiningTwin v) freed freed')
    : State.Twin v Same
        (freed.foldl (fun s (_, waiter, rest) => s.delay 0 waiter rest) s)
        (freed'.foldl (fun s (_, waiter, rest) => s.delay 0 waiter rest) s') := by
  induction same generalizing s s' with
  | nil => exact twin
  | @cons first first' _ _ same _ ih =>
    obtain ⟨task, waiter, rest⟩ := first
    obtain ⟨task', waiter', rest'⟩ := first'
    obtain ⟨rfl, rfl, rests⟩ := same
    exact ih (twin.delay 0 waiter rests)

/-- Those that wait for the end of a task go on in both states. -/
theorem close (twin : s.Twin v Same s') (task : Nat)
    : (s.close task).Twin v Same (s'.close task) := by
  unfold State.close
  simp only [List.partition_eq_filter_filter]
  have freed := filter_twin (fun other => decide (other = task)) twin.joining
  have others := filter_twin (fun other => !decide (other = task)) twin.joining
  have moved : State.Twin v Same
      { s with
        joining := s.joining.filter fun t => !decide (t.1 = task), ended := task :: s.ended }
      { s' with
        joining := s'.joining.filter fun t => !decide (t.1 = task), ended := task :: s'.ended } :=
    { twin with joining := others, ended := congrArg (task :: ·) twin.ended }
  exact moved.free freed

end State.Twin

-----------------------------------------------------------------------------
-- Runs

variable {sys : System S Job World}

/-- A task and its twin run up to the same stop. By induction over how they are twins: the world
reacts alike to what is asked first, and the rest are twins again.
-/
theorem run_twin (blind : Blind v Same sys.react)
    (jobs : ∀ job, Caretaker.Twin v Eq (sys.job job) (sys.job job))
    (rests : Caretaker.Twin v Eq rest rest') (twin : s.Twin v Same s')
    : (run sys rest s).1.Twin v (run sys rest' s').1
      ∧ (run sys rest s).2.Twin v Same (run sys rest' s').2 := by
  induction rests generalizing s s' with
  | done related =>
    subst related
    exact ⟨.finished _, twin⟩
  | @ask r r' k k' likens rests ih =>
    obtain ⟨world, time, nextTask, waiting, isLocked, wanting, joining, ended⟩ := s
    obtain ⟨world', time', nextTask', waiting', isLocked', wanting', joining', ended'⟩ := s'
    obtain rfl : time = time' := twin.time
    obtain rfl : nextTask = nextTask' := twin.nextTask
    obtain rfl : isLocked = isLocked' := twin.isLocked
    obtain rfl : ended = ended' := twin.ended
    obtain ⟨reaction, same⟩ := blind time r r' world world' likens twin.world
    rw [run, run]
    dsimp only
    generalize sys.react time r world = came at reaction same ⊢
    generalize sys.react time r' world' = came' at reaction same ⊢
    obtain ⟨reaction₁, after⟩ := came
    obtain ⟨reaction₂, after'⟩ := came'
    dsimp only at reaction same
    cases reaction with
    | answer related => exact ih _ _ related { twin with world := same }
    | later millis related =>
      cases millis with
      | zero => exact ih _ _ related { twin with world := same }
      | succ millis => exact ⟨.pausing _ (rests _ _ related), { twin with world := same }⟩
    | @fork a b job related =>
      have forked : State.Twin v Same
          ⟨after, time, nextTask + 1, waiting, isLocked, wanting, joining, ended⟩
          ⟨after', time, nextTask + 1, waiting', isLocked, wanting', joining', ended⟩ :=
        { twin with world := same, nextTask := rfl }
      exact ih _ _ (related nextTask) (forked.delay 0 nextTask (jobs job))
    | acquire related =>
      cases isLocked with
      | true => exact ⟨.wanting (rests _ _ related), { twin with world := same }⟩
      | false => exact ih _ _ related { twin with world := same, isLocked := rfl }
    | release related =>
      have released : State.Twin v Same
          ⟨after, time, nextTask, waiting, isLocked, wanting, joining, ended⟩
          ⟨after', time, nextTask, waiting', isLocked, wanting', joining', ended⟩ :=
        { twin with world := same }
      exact ih _ _ related released.unlock
    | join task related =>
      dsimp only
      split
      · exact ih _ _ related { twin with world := same }
      · exact ⟨.joining _ (rests _ _ related), { twin with world := same }⟩
    | exit code => exact ⟨.exited code, { twin with world := same }⟩

/-- Two tasks that are about to run. -/
inductive NextTwin (v : Veil S)
    : Option (Nat × Remainder S Job) → Option (Nat × Remainder S Job) → Prop where
  | none : NextTwin v none none
  | some {rest rest' : Remainder S Job} (task : Nat) (twin : Caretaker.Twin v Eq rest rest')
      : NextTwin v (some (task, rest)) (some (task, rest'))

/-- Tasks and their twins take turns up to the same ending, by induction over the number of steps.
-/
theorem runAll_twin (blind : Blind v Same sys.react)
    (jobs : ∀ job, Caretaker.Twin v Eq (sys.job job) (sys.job job)) (limit steps : Nat)
    {next next' : Option (Nat × Remainder S Job)} (nexts : NextTwin v next next')
    (twin : s.Twin v Same s')
    : (runAll sys limit steps next s).1 = (runAll sys limit steps next' s').1
      ∧ (runAll sys limit steps next s).2.Twin v Same (runAll sys limit steps next' s').2 := by
  induction steps generalizing next next' s s' with
  | zero => exact ⟨rfl, twin⟩
  | succ steps ih =>
    cases nexts with
    | @some rest rest' task rests =>
      obtain ⟨stop, after⟩ := run_twin blind jobs rests twin
      rw [runAll, runAll]
      generalize run sys rest s = ran at stop after ⊢
      generalize run sys rest' s' = ran' at stop after ⊢
      obtain ⟨stop₁, middle⟩ := ran
      obtain ⟨stop₂, middle'⟩ := ran'
      dsimp only at stop after
      cases stop with
      | finished next =>
        cases next with
        | some job => exact ih (.some task (jobs job)) after
        | none =>
          dsimp only
          split
          · exact ⟨rfl, after⟩
          · exact ih .none (after.close task)
      | pausing millis rests => exact ih .none (after.delay millis task rests)
      | wanting rests =>
        exact ih .none (after.want task rests)
      | joining other rests =>
        exact ih .none (after.await other task rests)
      | exited code => exact ⟨rfl, after⟩
    | none =>
      obtain ⟨world, time, nextTask, waiting, isLocked, wanting, joining, ended⟩ := s
      obtain ⟨world', time', nextTask', waiting', isLocked', wanting', joining', ended'⟩ := s'
      rw [runAll, runAll]
      have waitings : List.Forall₂ (Waiting.Twin v) waiting waiting' := twin.waiting
      cases waitings with
      | nil => exact ⟨rfl, twin⟩
      | @cons first first' others others' firsts rests =>
        dsimp only
        rw [← firsts.due]
        split
        · exact ⟨rfl, twin⟩
        · have later : max time first.due = max time' first.due :=
            congrArg (max · first.due) twin.time
          rw [← firsts.task]
          exact ih (.some first.task firsts.rest) { twin with waiting := rests, time := later }

/-- Two schedules that start with the same job in worlds that look the same come to the same ending
in worlds that look the same.
-/
theorem start_twin (sys : System S Job World) (blind : Blind v Same sys.react)
    (jobs : ∀ job, Caretaker.Twin v Eq (sys.job job) (sys.job job)) (limit tasks : Nat) (job : Job)
    {w w' : World} (same : Same w w')
    : (start sys limit tasks job w).1 = (start sys limit tasks job w').1
      ∧ Same (start sys limit tasks job w).2.world (start sys limit tasks job w').2.world := by
  have started : State.Twin v Same ({ world := w } : State S Job World) { world := w' } :=
    ⟨same, rfl, rfl, .nil, rfl, .nil, .nil, rfl⟩
  obtain ⟨ending, after⟩ :=
    runAll_twin blind jobs limit (stepBound limit tasks) (.some 0 (jobs job)) started
  exact ⟨ending, after.world⟩

end

end Schedule

end Caretaker
