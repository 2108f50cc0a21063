import Caretaker.Program

/-!
Tasks side by side in virtual time. One task runs at a time, and only waiting takes time: a task
runs until it pauses, waits for the lock or for another task, or ends. Then the task that is due
first runs, and of several due at once the one that began to wait first.
-/

namespace Caretaker

/-- What comes of a request of a task, whose answer has type `A`. Tasks are known by jobs. -/
inductive Reaction (A Job : Type) where
  | answer (a : A)
  /-- The answer comes after some time. -/
  | later (millis : Nat) (a : A)
  /-- Another task starts. The answer depends on its number. -/
  | fork (job : Job) (a : Nat → A)
  /-- The answer comes once the lock has been taken. -/
  | acquire (a : A)
  /-- The lock is given back. -/
  | release (a : A)
  /-- The answer comes once another task has ended. -/
  | join (task : Nat) (a : A)
  /-- Everything ends. -/
  | exit (code : Nat)

namespace Schedule

/-- What remains of a task's job: a program that ends with the next job, if there is one. -/
abbrev Remainder (S : Signature) (Job : Type) := Program S (Option Job)

/-- A task that waits for its time to come. -/
structure Waiting (S : Signature) (Job : Type) where
  due : Nat
  task : Nat
  rest : Remainder S Job

/-- All tasks but the one that runs, and the world they act upon. -/
structure State (S : Signature) (Job World : Type) where
  world : World
  time : Nat := 0
  /-- The number of the next task. The first task has number zero. -/
  nextTask : Nat := 1
  /-- Tasks that wait for their time, the first one due first. -/
  waiting : List (Waiting S Job) := []
  isLocked : Bool := false
  /-- Tasks that wait for the lock, the first one first. -/
  wanting : List (Nat × Remainder S Job) := []
  /-- Tasks that wait for the end of another one. -/
  joining : List (Nat × Nat × Remainder S Job) := []
  ended : List Nat := []

/-- A set of tasks: what each job does and what comes of each request. -/
structure System (S : Signature) (Job World : Type) where
  job : Job → Remainder S Job
  react : Nat → (r : S.Request) → World → Reaction (S.Answer r) Job × World

/-- How everything ended. -/
inductive Ending where
  | exited (code : Nat)
  /-- Nothing more was due within the time limit. -/
  | timeLimit
deriving Repr, DecidableEq

/-- Why a task stopped running. -/
inductive Stop (S : Signature) (Job : Type) where
  | finished (next : Option Job)
  | pausing (millis : Nat) (rest : Remainder S Job)
  | wanting (rest : Remainder S Job)
  | joining (task : Nat) (rest : Remainder S Job)
  | exited (code : Nat)

variable {S : Signature} {Job World : Type}

/-- A task goes behind all those that are due no later. -/
def insert (w : Waiting S Job) : List (Waiting S Job) → List (Waiting S Job)
  | [] => [w]
  | first :: rest => if first.due ≤ w.due then first :: insert w rest else w :: first :: rest

namespace State

/-- A task waits for some time to pass. -/
def delay (s : State S Job World) (millis task : Nat) (rest : Remainder S Job)
    : State S Job World :=
  { s with waiting := insert ⟨s.time + millis, task, rest⟩ s.waiting }

/-- The lock is given back. The first task that wants it has it from now on. -/
def unlock (s : State S Job World) : State S Job World :=
  match s.wanting with
  | [] => { s with isLocked := false }
  | (task, rest) :: others => { s with wanting := others }.delay 0 task rest

/-- A task has ended, and those that wait for it go on. -/
def close (s : State S Job World) (task : Nat) : State S Job World :=
  let (freed, others) := s.joining.partition (·.1 = task)
  let s := { s with joining := others, ended := task :: s.ended }
  freed.foldl (fun s (_, waiter, rest) => s.delay 0 waiter rest) s

end State

/-- Run a task until it stops. -/
def run (sys : System S Job World) : Remainder S Job → State S Job World
    → Stop S Job × State S Job World
  | .done next, s => (.finished next, s)
  | .ask r k, s =>
    match sys.react s.time r s.world with
    | (.answer a, world) => run sys (k a) { s with world := world }
    | (.later 0 a, world) => run sys (k a) { s with world := world }
    | (.later millis a, world) => (.pausing millis (k a), { s with world := world })
    | (.fork job a, world) =>
      let task := s.nextTask
      let s := { s with world := world, nextTask := task + 1 }
      run sys (k (a task)) (s.delay 0 task (sys.job job))
    | (.acquire a, world) =>
      let s := { s with world := world }
      if s.isLocked then
        (.wanting (k a), s)
      else
        run sys (k a) { s with isLocked := true }
    | (.release a, world) => run sys (k a) { s with world := world }.unlock
    | (.join task a, world) =>
      let s := { s with world := world }
      if s.ended.contains task then
        run sys (k a) s
      else
        (.joining task (k a), s)
    | (.exit code, world) => (.exited code, { s with world := world })

/-- Let tasks run in turn, starting with one of them, until everything ends. When the first task
ends, all do. The number of steps is bounded.
-/
def runAll (sys : System S Job World) (limit : Nat)
    : Nat → Option (Nat × Remainder S Job) → State S Job World → Ending × State S Job World
  | 0, _, s => (.timeLimit, s)
  | steps + 1, some (task, program), s =>
    match run sys program s with
    | (.finished (some job), s) => runAll sys limit steps (some (task, sys.job job)) s
    | (.finished none, s) =>
      if task = 0 then (.exited 0, s) else runAll sys limit steps none (s.close task)
    | (.pausing millis rest, s) => runAll sys limit steps none (s.delay millis task rest)
    | (.wanting rest, s) =>
      runAll sys limit steps none { s with wanting := s.wanting ++ [(task, rest)] }
    | (.joining other rest, s) =>
      runAll sys limit steps none { s with joining := s.joining ++ [(other, task, rest)] }
    | (.exited code, s) => (.exited code, s)
  | steps + 1, none, s =>
    match s.waiting with
    | [] => (.timeLimit, s)
    | first :: others =>
      if limit < first.due then
        (.timeLimit, s)
      else
        runAll sys limit steps (some (first.task, first.rest))
          { s with waiting := others, time := max s.time first.due }

/-- As many steps as tasks can take within a time limit, if each of at most `tasks` tasks pauses
for a millisecond or more at least once a job.
-/
def stepBound (limit tasks : Nat) : Nat :=
  4 * tasks * (limit + 4)

/-- Start with one job and let everything run up to a time limit. -/
def start (sys : System S Job World) (limit tasks : Nat) (job : Job) (world : World)
    : Ending × State S Job World :=
  runAll sys limit (stepBound limit tasks) (some (0, sys.job job)) { world := world }

end Schedule

end Caretaker
