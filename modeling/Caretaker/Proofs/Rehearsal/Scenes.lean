import Caretaker.Rehearsal
import Caretaker.Proofs.Cycle.Turnout

/-!
The play of the server in a rehearsal, scene by scene. Only questions to the server move it on, and
each of its scenes is what one round asks and tells, whatever the surroundings answer to the rest.
-/

namespace Caretaker.Rehearsal

open Caretaker.Cycle Site View

-----------------------------------------------------------------------------
-- The site among the surroundings

/-- What is asked of the site. -/
def siteEvents (events : List (Event Stage)) : List (Event Site) :=
  events.filterMap fun
    | ⟨.site r, answer⟩ => some ⟨r, answer⟩
    | _ => none

@[simp]
theorem siteEvents_append (first second : List (Event Stage))
    : siteEvents (first ++ second) = siteEvents first ++ siteEvents second :=
  List.filterMap_append

theorem siteEvents_of_met {asked : List (Event Site)} {events : List (Event Stage)}
    (met : Met atSite asked events)
    : siteEvents events = asked := by
  induction met with
  | nil => rfl
  | cons head _ ih =>
    obtain rfl := Runs.request_iff.1 head
    rw [siteEvents_append, ih]
    rfl

/-- A pause asks nothing of the site. -/
theorem siteEvents_pause {millis : Nat} {events : List (Event Stage)}
    (ran : Runs (Tasks.pause millis) events ())
    : siteEvents events = [] := by
  obtain rfl := Runs.request_iff.1 ran
  rfl

/-- What is said among the surroundings is said at the site. -/
theorem siteEvents_say {level : Log.Level} {origin message : String} {events : List (Event Stage)}
    (ran : Runs (say level origin message) events ())
    : siteEvents events = [said level origin message] := by
  obtain rfl := Runs.request_iff.1 ran
  rfl

-----------------------------------------------------------------------------
-- The server

/-- What the server of releases is asked among all that is asked. -/
def served (events : List (Event Stage)) : List (Event Site) :=
  servings.of (siteEvents events)

@[simp]
theorem served_append (first second : List (Event Stage))
    : served (first ++ second) = served first ++ served second := by
  rw [served, siteEvents_append, of_append, served, served]

/-- The place after all that its server was asked, latest first. -/
def World.after (world : World) (past : List (Event Stage)) : World :=
  (served past).foldr (fun e world => ((site e.request).run world).2) world

/-- The answers of surroundings that are free in all but what the server of the rehearsal is asked.
They may depend on all that was asked and answered before, latest first.
-/
def answers (free : List (Event Stage) → (r : Request) → Answer r) (past : List (Event Stage))
    : (r : Request) → Answer r
  | .site .check => ((site .check).run (World.initial.after past)).1
  | .site (.install release) => ((site (.install release)).run (World.initial.after past)).1
  | r => free past r

/-- The place answers some requests one after the other. -/
inductive Performs : World → List (Event Site) → World → Prop where
  | none (world : World) : Performs world [] world
  | next {world last : World} {r : Site.Request} {events : List (Event Site)}
      (rest : Performs ((site r).run world).2 events last)
      : Performs world (⟨r, ((site r).run world).1⟩ :: events) last

namespace Performs

variable {world last : World} {first second events : List (Event Site)}

theorem nil_iff : Performs world [] last ↔ last = world := by
  constructor
  · intro h
    cases h
    rfl
  · intro same
    subst same
    exact .none _

theorem cons_iff {r : Site.Request} {answer : Site.Answer r}
    : Performs world (⟨r, answer⟩ :: events) last
      ↔ answer = ((site r).run world).1 ∧ Performs ((site r).run world).2 events last := by
  constructor
  · intro h
    cases h with
    | next rest => exact ⟨rfl, rest⟩
  · intro h
    obtain ⟨rfl, rest⟩ := h
    exact .next rest

/-- The place answers two rows of requests one after the other, by induction over the first. -/
theorem append_iff
    : Performs world (first ++ second) last
      ↔ ∃ middle, Performs world first middle ∧ Performs middle second last := by
  induction first generalizing world with
  | nil => simp [nil_iff]
  | cons e first ih =>
    obtain ⟨r, answer⟩ := e
    rw [List.cons_append, cons_iff, ih]
    simp only [cons_iff, and_assoc, exists_and_left]

end Performs

variable {α : Type} {free : List (Event Stage) → (r : Request) → Answer r}

/-- One request moves the place on as its server is asked for it, by cases over the request. -/
theorem performs_request (past : List (Event Stage)) (r : Request)
    : Performs (World.initial.after past) (served [⟨r, answers free past r⟩])
        (World.initial.after (⟨r, answers free past r⟩ :: past)) := by
  cases r with
  | site r =>
    cases r with
    | check | install => exact .next (.none _)
    | _ => exact .none _
  | _ => exact .none _

/-- On a path through any program the place answers what its server is asked, by induction over the
program.
-/
theorem performs_pursue (past : List (Event Stage)) (p : Program Stage α)
    : let path := (p.pursue (fun past r => some (answers free past r)) past).1
      Performs (World.initial.after past) (served path)
        (World.initial.after (path.reverse ++ past)) := by
  induction p generalizing past with
  | done a => exact .none _
  | ask r k ih =>
    let e : Event Stage := ⟨r, answers free past r⟩
    have first : Performs _ (served [e]) (World.initial.after (e :: past)) :=
      performs_request past r
    have rest := ih (answers free past r) (e :: past)
    simp only [Program.pursue, List.reverse_cons, List.append_assoc, List.singleton_append]
    -- The path begins with this one request, so what is served splits behind it.
    rw [← List.singleton_append, served_append]
    exact Performs.append_iff.2 ⟨_, first, rest⟩

/-- Every path leads to an end, since all is answered. -/
theorem exists_pursue_eq (free : List (Event Stage) → (r : Request) → Answer r)
    (past : List (Event Stage)) (p : Program Stage α)
    : ∃ a, (p.pursue (fun past r => some (answers free past r)) past).2 = .inl a := by
  cases ending : (p.pursue (fun past r => some (answers free past r)) past).2 with
  | inl a => exact ⟨a, rfl⟩
  | inr r =>
    obtain ⟨before, unanswered⟩ := Program.exists_unanswered ending
    cases unanswered

-----------------------------------------------------------------------------
-- The scenes of the play

/-- The server has nothing when it is asked for the first time, and only then. -/
theorem nothing_eq_finding_iff {n : Nat} : .nothing = finding (n + 1) ↔ n = 0 := by
  match n with
  | 0 | 1 | n + 2 => simp [finding]

/-- It fails when it is asked for the second time, and only then. -/
theorem failed_eq_finding_iff {n : Nat} {code : Int32}
    : .failed code = finding (n + 1) ↔ n = 1 ∧ code = -1 := by
  match n with
  | 0 | 1 | n + 2 => simp [finding]

/-- It has found the release of the play whenever it is asked after that. -/
theorem found_eq_finding_iff {n : Nat} {found : Release}
    : .found found = finding (n + 1) ↔ 2 ≤ n ∧ found = release := by
  match n with
  | 0 | 1 | n + 2 => simp [finding]

theorem deferred_eq_installation_iff {n : Nat} : .deferred = installation n ↔ n = 3 := by
  unfold installation
  split <;> simp [*]

theorem staged_eq_installation_iff {n : Nat} : .staged = installation n ↔ n ≠ 3 := by
  unfold installation
  split <;> simp [*]

theorem failed_ne_installation {n : Nat} {code : Int32} : .failed code ≠ installation n := by
  unfold installation
  split <;> simp

/-- A check moves the play on. -/
theorem performs_check_iff {world last : World} {found : Finding} {events : List (Event Site)}
    : Performs world (⟨.check, found⟩ :: events) last
      ↔ found = finding (world.asked + 1)
        ∧ Performs { world with asked := world.asked + 1 } events last :=
  Performs.cons_iff

/-- An installation goes as far as the play has come, and leaves it there. By cases over how it
goes.
-/
theorem run_install (world : World) (release : Release)
    : ((site (.install release)).run world).1 = installation world.asked
      ∧ ((site (.install release)).run world).2.asked = world.asked := by
  rw [site, StateT.run_bind, StateT.run_get, pure_bind]
  cases installation world.asked with
  | deferred => exact ⟨rfl, rfl⟩
  | staged => exact ⟨rfl, rfl⟩
  | failed code => exact ⟨rfl, rfl⟩

theorem Performs.of_install {world last : World} {release : Release} {outcome : Installation}
    (performs : Performs world [⟨.install release, outcome⟩] last)
    : outcome = installation world.asked ∧ last.asked = world.asked := by
  obtain ⟨answered, after⟩ := Performs.cons_iff.1 performs
  obtain ⟨same, unmoved⟩ := run_install world release
  rw [Performs.nil_iff.1 after]
  exact ⟨answered.trans same, unmoved⟩

/-- The scenes of the play: what the server is asked, what the round tells, and how it ends. -/
inductive Scene : Nat → List (Event Site) → List Report → Result → Prop where
  | nothing : Scene 0 [⟨.check, .nothing⟩] [.count .successes] (.checked .upToDate)
  | failure
      : Scene 1 [⟨.check, .failed (-1)⟩]
          [.count .failures, .notice (.failure (-1)), .keepLog] (.checked (.failed (-1)))
  | deferral (record : Attempt.Record) (code : record.code = 1)
      : Scene 2 [⟨.check, .found release⟩, ⟨.install release, .deferred⟩]
          [.count .successes, .attempt record] (.checked .available)
  | installation (record : Attempt.Record) (code : record.code = 0)
      : Scene 3 [⟨.check, .found release⟩, ⟨.install release, .staged⟩] [.attempt record]
          .restarting

/-- Scenes in a row, from the number of the first one to that of the one behind the last. -/
inductive Scenes : Nat → Nat → List (Event Site) → List Report → Prop where
  | none (n : Nat) : Scenes n n [] []
  | next {n last : Nat} {asked others : List (Event Site)} {told more : List Report}
      {result : Result} (first : Scene n asked told result)
      (rest : Scenes (n + 1) last others more)
      : Scenes n last (asked ++ others) (told ++ more)

theorem Scenes.concat {first n : Nat} {asked others : List (Event Site)} {told more : List Report}
    {result : Result} (scenes : Scenes first n asked told) (scene : Scene n others more result)
    : Scenes first (n + 1) (asked ++ others) (told ++ more) := by
  induction scenes with
  | none n => simpa using Scenes.next scene (.none _)
  | next first _ ih =>
    rw [List.append_assoc, List.append_assoc]
    exact .next first (ih scene)

variable {plan : Plan} {asked : List (Event Site)} {result : Result}

/-- A round that is online plays the next scene, by cases over how it turns out. -/
theorem Scene.of_turnout {world last : World} {records : List Attempt.Record}
    (counts : plan.policy.countsChecks = true) (turnout : Turnout true asked records result)
    (performs : Performs world asked last) (early : world.asked < 4)
    : Scene world.asked asked (result.tallies plan ++ records.map .attempt ++ result.evidence)
        result
      ∧ last.asked = world.asked + 1 := by
  cases turnout with
  | nothing =>
    obtain ⟨found, after⟩ := performs_check_iff.1 performs
    rw [Performs.nil_iff.1 after, nothing_eq_finding_iff.1 found, Result.tallies_of_counts counts]
    exact ⟨.nothing, rfl⟩
  | failed code =>
    obtain ⟨found, after⟩ := performs_check_iff.1 performs
    obtain ⟨second, rfl⟩ := failed_eq_finding_iff.1 found
    rw [Performs.nil_iff.1 after, second, Result.tallies_of_counts counts]
    exact ⟨.failure, rfl⟩
  | deferred release record code =>
    obtain ⟨found, after⟩ := performs_check_iff.1 performs
    obtain ⟨-, rfl⟩ := found_eq_finding_iff.1 found
    obtain ⟨installed, unmoved⟩ := after.of_install
    have third : world.asked = 2 := Nat.succ.inj (deferred_eq_installation_iff.1 installed)
    rw [unmoved, third, Result.tallies_of_counts counts]
    exact ⟨.deferral record code, rfl⟩
  | installFailed release failure record code =>
    obtain ⟨-, after⟩ := performs_check_iff.1 performs
    obtain ⟨installed, -⟩ := after.of_install
    exact absurd installed failed_ne_installation
  | staged release record code =>
    obtain ⟨found, after⟩ := performs_check_iff.1 performs
    obtain ⟨late, rfl⟩ := found_eq_finding_iff.1 found
    obtain ⟨installed, unmoved⟩ := after.of_install
    have notThird : world.asked + 1 ≠ 3 := staged_eq_installation_iff.1 installed
    have fourth : world.asked = 3 := by omega
    rw [unmoved, fourth]
    exact ⟨.installation record code, rfl⟩

theorem Scene.restarting_iff {n : Nat} {told : List Report} (scene : Scene n asked told result)
    : result = .restarting ↔ n = 3 := by
  cases scene <;> simp

theorem Scene.lt {n : Nat} {told : List Report} (scene : Scene n asked told result) : n < 4 := by
  cases scene <;> decide

/-- What the server is asked in the whole play. -/
def plot : List (Event Site) :=
  [⟨.check, .nothing⟩,
    ⟨.check, .failed (-1)⟩,
    ⟨.check, .found release⟩,
    ⟨.install release, .deferred⟩,
    ⟨.check, .found release⟩,
    ⟨.install release, .staged⟩]

/-- What is told about the whole play, with the records of its two attempts. -/
def story (putOff installed : Attempt.Record) : List Report :=
  [.count .successes,
    .count .failures,
    .notice ⟨"ota_install_failure", "error code=-1"⟩,
    .keepLog,
    .count .successes,
    .attempt putOff,
    .attempt installed]

/-- There is only one way through the whole play, scene by scene. -/
theorem Scenes.whole {told : List Report} (scenes : Scenes 0 4 asked told)
    : asked = plot
      ∧ ∃ putOff installed, putOff.code = 1 ∧ installed.code = 0
        ∧ told = story putOff installed := by
  -- The number of a scene leaves one way for it, and a fifth scene has no number.
  rcases scenes with _ | ⟨_ | _, rest⟩
  rcases rest with _ | ⟨_ | _, rest⟩
  rcases rest with _ | ⟨_ | _ | ⟨putOff, first⟩, rest⟩
  rcases rest with _ | ⟨_ | _ | _ | ⟨installed, second⟩, rest⟩
  rcases rest with _ | ⟨scene, -⟩
  · exact ⟨rfl, putOff, installed, first, second, rfl⟩
  · exact absurd scene.lt (Nat.lt_irrefl 4)

end Caretaker.Rehearsal
