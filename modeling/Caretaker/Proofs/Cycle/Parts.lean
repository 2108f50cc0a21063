import Caretaker.Proofs.Cycle.Steps

/-!
The parts of a round. A property of steps that holds of everything a round is made of, and of steps
in a row if it holds of each, holds of every round. A property of programs does so if it holds of
whatever a step asks, from every state of the cycle.
-/

namespace Caretaker.Cycle

/-- What a round asks of its site, apart from what is said and from best efforts. -/
inductive IsAsked : Site.Request → Prop where
  | now : IsAsked .now
  | isOnline : IsAsked .isOnline
  | check : IsAsked .check
  | install (release : Release) : IsAsked (.install release)
  | light (lamp : Lamp) : IsAsked (.light lamp)
  | restart (reason : Reset.Reason) : IsAsked (.restart reason)

/-- The best efforts of a round. -/
inductive IsEffort : Program Site (Except Fault Unit) → Prop where
  | count (counter : Counter) : IsEffort (Caretaker.count counter)
  | attempt (record : Attempt.Record) : IsEffort (recordAttempt record)
  | notice (event : Notice) : IsEffort (notify event)
  | keepLog : IsEffort Caretaker.keepLog
  | mark (reason : Reset.Reason) : IsEffort (Site.mark reason)

/-- A property of programs holds of all that a round is made of, and of programs in a row if it
holds of each of them.
-/
structure OfParts (P : {α : Type} → Program Site α → Prop) : Prop where
  done {α : Type} (a : α) : P (.done a)
  bind {α β : Type} {p : Program Site α} {f : α → Program Site β} (first : P p)
    (rest : ∀ a, P (f a))
    : P (p >>= f)
  say (level : Log.Level) (origin message : String)
    : P (say level origin message : Program Site Unit)
  ask {r : Site.Request} (isAsked : IsAsked r) : P (Program.request (S := Site) r)
  effort {p : Program Site (Except Fault Unit)} (isEffort : IsEffort p) (level : Log.Level)
    (failure : String)
    : P (p >>= tolerate level Step.origin failure)
  join (isOnline : Bool) : P (Joining.attempt isOnline)

/-- What a step does at the site while it leaves the cycle as it is: anything but showing a color,
one after the other.
-/
inductive IsPart : {α : Type} → Program Site α → Prop where
  | done {α : Type} (a : α) : IsPart (.done a)
  | bind {α β : Type} {p : Program Site α} {f : α → Program Site β} (first : IsPart p)
      (rest : ∀ a, IsPart (f a))
      : IsPart (p >>= f)
  | say (level : Log.Level) (origin message : String)
      : IsPart (say level origin message : Program Site Unit)
  | ask {r : Site.Request} (isAsked : IsAsked r) (dark : ∀ lamp, r ≠ .light lamp)
      : IsPart (Program.request (S := Site) r)
  | effort {p : Program Site (Except Fault Unit)} (isEffort : IsEffort p) (level : Log.Level)
      (failure : String)
      : IsPart (p >>= tolerate level Step.origin failure)
  | join (isOnline : Bool) : IsPart (Joining.attempt isOnline)

/-- A property of steps holds of all that a round is made of, and of steps in a row if it holds of
each of them.
-/
structure OfSteps (Q : {α : Type} → Step α → Prop) : Prop where
  pure {α : Type} (a : α) : Q (Pure.pure a : Step α)
  bind {α β : Type} {x : Step α} {f : α → Step β} (first : Q x) (rest : ∀ a, Q (f a)) : Q (x >>= f)
  get_bind {α : Type} {f : Cycle → Step α} (rest : ∀ cycle, Q (f cycle)) : Q (get >>= f : Step α)
  keep (attempt : Attempt.Tracker)
    : Q (modify ({ · with attempt := attempt }) : Step PUnit)
  display (lamp : Lamp) : Q (Step.display lamp)
  site {α : Type} {p : Program Site α} (isPart : IsPart p) : Q (Step.site p)

namespace OfSteps

variable {Q : {α : Type} → Step α → Prop} {α β : Type}

/-- A step that is taken under a condition, with another one behind it in any case. -/
theorem when (law : OfSteps Q) {condition : Bool} {x : Step β} {y : Step α} (first : Q x)
    (rest : Q y)
    : Q (if condition = true then x >>= fun _ => y else y : Step α) := by
  cases condition with
  | true => exact law.bind first fun _ => rest
  | false => exact rest

theorem asked (law : OfSteps Q) {r : Site.Request} (isAsked : IsAsked r)
    (dark : ∀ lamp, r ≠ .light lamp)
    : Q (Step.site (Program.request (S := Site) r)) :=
  law.site (.ask isAsked dark)

theorem tell (law : OfSteps Q) (level : Log.Level) (message : String)
    : Q (Step.tell level message) :=
  law.site (.say level Step.origin message)

theorem bestEffort (law : OfSteps Q) {p : Program Site (Except Fault Unit)} (isEffort : IsEffort p)
    (level : Log.Level) (failure : String)
    : Q (Step.bestEffort level failure p) :=
  law.site (.effort isEffort level failure)

theorem tally (law : OfSteps Q) (counter : Counter) : Q (Step.tally counter) :=
  law.bestEffort (.count counter) _ _

theorem beginAttempt (law : OfSteps Q) : Q Step.beginAttempt := by
  refine law.bind (law.asked .now nofun) fun time => law.get_bind fun cycle => ?_
  refine law.bind (law.site ?_) fun answer => ?_
  · unfold Attempt.begin
    split <;> exact .bind (.say ..) fun _ => .done _
  · cases answer with
    | ok opened => exact law.keep opened
    | error misuse => exact law.pure ()

theorem endAttempt (law : OfSteps Q) (code : Int32) : Q (Step.endAttempt code) := by
  refine law.bind (law.asked .now nofun) fun time => law.get_bind fun cycle => ?_
  refine law.bind (law.site ?_) fun answer => ?_
  · unfold Attempt.conclude
    split <;> exact .bind (.say ..) fun _ => .done _
  · cases answer with
    | ok concluded =>
      exact law.bind (law.keep concluded.2) fun _ => law.bestEffort (.attempt concluded.1) _ _
    | error misuse => exact law.pure ()

theorem found (law : OfSteps Q) (release : Release) : Q (Step.found release) :=
  law.bind (law.display .blue) fun _ => law.bind (law.tell _ _) fun _ => law.beginAttempt

theorem installed (law : OfSteps Q) : Q Step.installed := by
  refine law.bind (law.tell _ _) fun _ => law.bind (law.endAttempt _) fun _ => ?_
  refine law.bind (law.bestEffort (.mark .firmwareUpdate) _ _) fun _ => ?_
  exact law.asked (.restart .firmwareUpdate) nofun

theorem fail (law : OfSteps Q) (code : Int32)
    : Q (do return some (← Step.site (Outcome.fail code)) : Step (Option Outcome)) := by
  refine law.bind (law.site ?_) fun _ => law.pure _
  unfold Outcome.fail
  split
  · exact .bind (.say ..) fun _ => .done _
  · exact .done _

theorem look (law : OfSteps Q) (plan : Plan) : Q (Step.look plan) := by
  refine law.bind (law.tell _ _) fun _ => law.bind (law.asked .check nofun) fun finding => ?_
  cases finding with
  | nothing => exact law.pure _
  | failed code => exact law.fail code
  | found release =>
    refine law.bind (law.found release) fun _ => ?_
    cases plan.policy.downloads with
    | false => exact law.pure _
    | true =>
      refine law.bind (law.asked (.install release) nofun) fun installation => ?_
      cases installation with
      | staged => exact law.bind law.installed fun _ => law.pure _
      | deferred => exact law.pure _
      | failed code => exact law.fail code

theorem present (law : OfSteps Q) (outcome : Outcome) : Q (Step.present outcome) := by
  cases outcome with
  | upToDate => exact law.bind (law.tell _ _) fun _ => law.display .green
  | available => exact law.tell _ _
  | failed code =>
    refine law.bind (law.tell _ _) fun _ => law.get_bind fun cycle => ?_
    refine law.when (law.endAttempt code) ?_
    refine law.bind (law.bestEffort (.notice (.failure code)) _ _) fun _ => ?_
    exact law.bind (law.bestEffort .keepLog _ _) fun _ => law.display .red

theorem settle (law : OfSteps Q) (plan : Plan) (outcome : Outcome)
    : Q (Step.settle plan outcome) := by
  refine law.when (law.tally _) ?_
  refine law.bind (law.present outcome) fun _ => law.get_bind fun cycle => ?_
  cases cycle.attempt.isOpen with
  | true => exact law.bind (law.tell _ _) fun _ => law.endAttempt _
  | false => exact law.pure ()

/-- What holds of all parts of a round holds of the round. -/
theorem round (law : OfSteps Q) (plan : Plan) : Q (round plan) := by
  have joins : Q (Step.site do Joining.attempt (← Site.isOnline)) :=
    law.site (.bind (.ask .isOnline nofun) fun isOnline => .join isOnline)
  refine law.bind (law.tally .rounds) fun _ => law.when joins ?_
  refine law.bind (law.asked .isOnline nofun) fun isOnline => ?_
  cases isOnline with
  | false => exact law.bind (law.tell _ _) fun _ => law.bind (law.display .red) fun _ => law.pure _
  | true =>
    refine law.bind (law.look plan) fun looked => ?_
    cases looked with
    | none => exact law.pure _
    | some outcome => exact law.bind (law.settle plan outcome) fun _ => law.pure _

end OfSteps

/-- A property holds of a step from every state of the cycle. -/
def Step.Always {α : Type} (P : {α : Type} → Program Site α → Prop) (x : Step α) : Prop :=
  ∀ cycle, P (x.run cycle)

namespace OfParts

variable {P : {α : Type} → Program Site α → Prop} {α : Type}

/-- What holds of all parts holds of those that leave the cycle as it is, by induction over them. -/
theorem of_isPart (law : OfParts P) {p : Program Site α} (isPart : IsPart p) : P p := by
  induction isPart with
  | done a => exact law.done a
  | bind _ _ first rest => exact law.bind first rest
  | say level origin message => exact law.say level origin message
  | ask isAsked _ => exact law.ask isAsked
  | effort isEffort level failure => exact law.effort isEffort level failure
  | join isOnline => exact law.join isOnline

theorem ofSteps (law : OfParts P) : OfSteps (Step.Always P) where
  pure _ _ := law.done _
  bind first rest cycle := by
    rw [StateT.run_bind]
    exact law.bind (first cycle) fun result => rest result.1 result.2
  get_bind rest cycle := by
    rw [Step.get_bind_run]
    exact rest cycle cycle
  keep _ _ := law.done _
  display lamp cycle := by
    rw [Step.display, Step.modify_bind_run, Step.site, StateT.run_lift]
    exact law.bind (law.ask (.light lamp)) fun _ => law.done _
  site isPart cycle := by
    rw [Step.site, StateT.run_lift]
    exact law.bind (law.of_isPart isPart) fun _ => law.done _

/-- What holds of all parts of a round holds of the round, from every state of the cycle. -/
theorem round (law : OfParts P) (plan : Plan) : (round plan).Always P :=
  law.ofSteps.round plan

end OfParts

end Caretaker.Cycle
