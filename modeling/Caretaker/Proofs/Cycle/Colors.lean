import Caretaker.Proofs.Cycle.Parts
import Caretaker.Proofs.Cycle.Rounds

/-!
What the lamp shows. The cycle remembers the color that it showed last, step by step, and the
course of a round fixes which colors it shows and where.
-/

namespace Caretaker

/-- The colors that are shown. -/
def View.lights : View Lamp where
  see
    | ⟨.light lamp, _⟩ => some lamp
    | _ => none
  overlooks e background := by
    obtain ⟨r, answer⟩ := e
    cases r with
    | light lamp => exact background.elim
    | _ => rfl

/-- The color on the lamp behind some events, if it was `lamp` before them. -/
def Lamp.behind (lamp : Lamp) (events : List (Event Site)) : Lamp :=
  ((View.lights.of events).getLast?).getD lamp

theorem Lamp.behind_append (lamp : Lamp) (first second : List (Event Site))
    : lamp.behind (first ++ second) = (lamp.behind first).behind second := by
  simp [Lamp.behind, List.getLast?_append]

theorem Lamp.behind_of_dark (lamp : Lamp) {events : List (Event Site)}
    (dark : ∀ e ∈ events, ∀ color, e.request ≠ .light color)
    : lamp.behind events = lamp := by
  have unseen : View.lights.of events = [] := by
    refine List.filterMap_eq_nil_iff.2 fun e member => ?_
    obtain ⟨r, answer⟩ := e
    cases r with
    | light color => exact absurd rfl (dark _ member color)
    | _ => rfl
  rw [Lamp.behind, unseen]
  rfl

namespace Cycle

-----------------------------------------------------------------------------
-- The color that is remembered

/-- What a step does at the site while it leaves the cycle as it is shows no color, by induction
over its parts.
-/
theorem IsPart.dark {α : Type} {p : Program Site α} (isPart : IsPart p)
    : p.Only fun (r : Site.Request) => ∀ color, r ≠ .light color := by
  induction isPart with
  | done => trivial
  | bind _ _ first rest => exact .bind first rest
  | say => exact Program.Only.request_iff.2 nofun
  | ask _ dark => exact Program.Only.request_iff.2 dark
  | effort isEffort level failure =>
    refine .bind ?_ fun answer => ?_
    · cases isEffort <;> exact Program.Only.request_iff.2 nofun
    · cases answer with
      | ok _ => trivial
      | error fault => exact Program.Only.request_iff.2 nofun
  | join isOnline =>
    refine (Joining.attempt_only isOnline).mono fun r joining => ?_
    rintro color rfl
    exact joining

/-- The cycle behind a step remembers the color shown last. -/
def Step.Shows {α : Type} (x : Step α) : Prop :=
  ∀ {cycle after events a}, Runs (x.run cycle) events (a, after)
    → after.lamp = cycle.lamp.behind events

theorem ofSteps_shows : OfSteps Step.Shows where
  pure a := by
    intro cycle after events b ran
    obtain ⟨rfl, -, rfl⟩ := Step.pure_runs_iff.1 ran
    rfl
  bind first rest := by
    intro cycle after events b ran
    obtain ⟨before, behind, a, middle, rfl, head, tail⟩ := Runs.state_bind_iff.1 ran
    rw [Lamp.behind_append, ← first head, ← rest a tail]
  get_bind rest := by
    intro cycle after events b ran
    rw [Step.get_bind_run] at ran
    exact rest cycle ran
  keep attempt := by
    intro cycle after events a ran
    obtain ⟨rfl, same⟩ := Runs.done_iff.1 ran
    cases same
    rfl
  display lamp := by
    intro cycle after events a ran
    obtain ⟨rfl, rfl⟩ := Step.display_runs ran
    rfl
  site isPart := by
    intro cycle after events a ran
    obtain ⟨asked, rfl⟩ := Step.site_runs_iff.1 ran
    have dark := Program.Only.of_runs asked isPart.dark
    exact (Lamp.behind_of_dark _ dark).symm

/-- In rounds at the site itself the cycle remembers the color shown last, by induction over the
rounds.
-/
theorem Rounds.lamp_eq {plan : Plan} {cycle last : Cycle} {passages : List (Passage Site)}
    (rounds : Rounds Site.ask plan cycle passages last)
    : last.lamp = cycle.lamp.behind (passages.flatMap Passage.events) := by
  induction rounds with
  | none => rfl
  | next first _ ih =>
    obtain ⟨asked, ran, met⟩ := Runs.realize_iff.1 first
    obtain rfl := Site.met_ask_iff.1 met
    rw [List.flatMap_cons, Lamp.behind_append, ← ofSteps_shows.round plan ran, ih]

-----------------------------------------------------------------------------
-- The colors of a round

/-- The color for the result of a round. -/
def Result.color : Result → Lamp
  | .offline | .checked (.failed _) => .red
  | .checked .upToDate => .green
  | .checked .available | .restarting => .blue

/-- A color that is shown or an installation that is tried. -/
inductive Milestone where
  | shown (lamp : Lamp)
  | installed (installation : Installation)

/-- The color that a milestone shows. -/
def Milestone.shown? : Milestone → Option Lamp
  | .shown lamp => some lamp
  | .installed _ => none

end Cycle

open Caretaker.Cycle

namespace View

/-- The colors that are shown and the installations that are tried. -/
def milestones : View Milestone where
  see
    | ⟨.light lamp, _⟩ => some (.shown lamp)
    | ⟨.install _, installation⟩ => some (.installed installation)
    | _ => none
  overlooks e background := by
    obtain ⟨r, answer⟩ := e
    cases r with
    | light | install => exact background.elim
    | _ => rfl

theorem lights_eq_filterMap (events : List (Event Site))
    : lights.of events = (milestones.of events).filterMap Milestone.shown? := by
  have sees (e : Event Site) : lights.see e = (milestones.see e).bind Milestone.shown? := by
    obtain ⟨r, answer⟩ := e
    cases r <;> rfl
  rw [of, of, List.filterMap_filterMap, funext sees]

theorem installed_mem {events : List (Event Site)} {release : Release}
    {installation : Installation} (member : ⟨.install release, installation⟩ ∈ events)
    : .installed installation ∈ milestones.of events :=
  List.mem_filterMap.2 ⟨_, member, rfl⟩

end View

namespace Cycle

/-- Where the colors of a round are, by the color of its result. -/
inductive Milestones : Lamp → List Milestone → Prop where
  | plain (color : Lamp) : Milestones color [.shown color]
  | tried (installation : Installation) (unfailed : ∀ code, installation ≠ .failed code)
      : Milestones .blue [.shown .blue, .installed installation]
  | failed (code : Int32)
      : Milestones .red [.shown .blue, .installed (.failed code), .shown .red]

/-- A round shows the color of its result, before an installation if there is one. If this fails, it
shows another color behind it.
-/
theorem Course.milestones_of {plan : Plan} {events : List (Event Site)} {result : Result}
    (course : Course plan events result)
    : Milestones result.color (View.milestones.of events) := by
  have blind (online : Bool) : View.milestones.see ⟨.isOnline, online⟩ = none := rfl
  cases course with
  | offline opens =>
    rw [View.of_behind _ opens blind]
    exact .plain .red
  | settled opens looks settles =>
    rw [List.append_assoc, View.of_behind _ opens blind]
    cases looks with
    | nothing =>
      cases settles
      simpa [View.milestones, Result.color, Site.said] using Milestones.plain .green
    | failed code =>
      cases settles
      simpa [View.milestones, Result.color] using Milestones.plain .red
    | unwanted release startedAt =>
      cases settles
      simpa [View.milestones, Result.color] using Milestones.plain .blue
    | deferred release startedAt =>
      cases settles
      simpa [View.milestones, Result.color] using Milestones.tried .deferred nofun
    | installFailed release startedAt code =>
      cases settles
      simpa [View.milestones, Result.color] using Milestones.failed code
  | restarting opens looks =>
    rw [View.of_behind _ opens blind]
    cases looks with
    | installed =>
      simpa [View.milestones, Result.color] using Milestones.tried .staged nofun

/-- A round shows just the color of its result, unless an installation fails, which it shows behind
another color.
-/
theorem Course.colors {plan : Plan} {events : List (Event Site)} {result : Result}
    (course : Course plan events result)
    : (View.lights.of events = [result.color]
        ∧ ∀ release code, ⟨.install release, .failed code⟩ ∉ events)
      ∨ View.lights.of events = [.blue, .red] ∧ result.color = .red
        ∧ ∃ release code, ⟨.install release, .failed code⟩ ∈ events := by
  have milestones := course.milestones_of
  rw [View.lights_eq_filterMap]
  generalize result.color = color, seen : View.milestones.of events = list at milestones
  cases milestones with
  | plain =>
    refine .inl ⟨rfl, fun release code member => ?_⟩
    have installed := View.installed_mem member
    simp [seen] at installed
  | tried installation unfailed =>
    refine .inl ⟨rfl, fun release code member => ?_⟩
    have installed := View.installed_mem member
    have same : installation = .failed code := by simpa [seen, eq_comm] using installed
    exact unfailed code same
  | failed code =>
    refine .inr ⟨rfl, rfl, ?_⟩
    have installed : .installed (.failed code) ∈ View.milestones.of events := by simp [seen]
    obtain ⟨⟨r, answer⟩, member, same⟩ := List.mem_filterMap.1 installed
    cases r with
    | install release =>
      cases same
      exact ⟨release, code, member⟩
    | _ => cases same

/-- Just one milestone comes before an installation. -/
theorem Milestones.before_installed {color : Lamp} {early late : List Milestone}
    {installation : Installation}
    (h : Milestones color (early ++ .installed installation :: late))
    : early = [.shown .blue] := by
  generalize split : early ++ .installed installation :: late = list at h
  rcases early with _ | ⟨first, _ | ⟨second, early⟩⟩
  · cases h <;> cases split
  · cases h <;> cases split <;> rfl
  · cases h with
    | plain => simp at split
    | tried => simp at split
    | failed => cases early <;> simp at split

/-- Whenever an installation is tried, blue has been shown and nothing else. -/
theorem Course.blue_before {plan : Plan} {before rest : List (Event Site)} {release : Release}
    {installation : Installation} {result : Result}
    (course : Course plan (before ++ ⟨.install release, installation⟩ :: rest) result)
    : View.lights.of before = [.blue] := by
  have milestones := course.milestones_of
  have seen : View.milestones.of (before ++ ⟨.install release, installation⟩ :: rest)
      = View.milestones.of before ++ .installed installation :: View.milestones.of rest := by
    rw [View.of_append, View.of_cons]
    rfl
  rw [seen] at milestones
  rw [View.lights_eq_filterMap, milestones.before_installed]
  rfl

/-- A look for a release shows blue if anything. -/
theorem Looking.not_red {plan : Plan} {events : List (Event Site)} {outcome : Option Outcome}
    {startedAt : Option Stamp} (looks : Looking plan events outcome startedAt)
    : .red ∉ View.lights.of events := by
  cases looks <;> simp [View.lights]

/-- An attempt is open where a failure is settled if a release has been found. -/
theorem Looking.open_of_found {plan : Plan} {events : List (Event Site)} {code : Int32}
    {startedAt : Option Stamp} (looks : Looking plan events (some (.failed code)) startedAt)
    {release : Release} (found : .found release ∈ View.findings.of events)
    : startedAt ≠ none := by
  cases looks with
  | failed => simp [View.findings] at found
  | installFailed => exact nofun

/-- A failure is settled with all evidence first, and the color behind it. -/
theorem Settling.evidence_before {plan : Plan} {events : List (Event Site)} {code : Int32}
    {startedAt : Option Stamp} (settles : Settling plan (.failed code) startedAt events)
    : ∃ before, events = before ++ [⟨.light .red, ()⟩]
      ∧ View.lights.of before = []
      ∧ View.findings.of before = []
      ∧ (∃ noticed, ⟨.report (.notice (.failure code)), noticed⟩ ∈ before)
      ∧ (∃ kept, ⟨.report .keepLog, kept⟩ ∈ before)
      ∧ (startedAt ≠ none → ∃ record handedIn, record.code = code
        ∧ ⟨.report (.attempt record), handedIn⟩ ∈ before) := by
  cases settles with
  | failed _ counted noticed kept =>
    refine ⟨_, by rw [failedEvents, ← List.append_assoc], by simp [View.lights, Site.said],
      by simp [View.findings, Site.said], ⟨noticed, by simp⟩, ⟨kept, by simp⟩, fun isOpen => ?_⟩
    exact absurd rfl isOpen
  | installFailed _ startedAt endedAt counted handedIn noticed kept =>
    refine ⟨_, by rw [failedEvents, ← List.append_assoc], by simp [View.lights, Site.said],
      by simp [View.findings, Site.said], ⟨noticed, by simp⟩, ⟨kept, by simp⟩, fun _ => ?_⟩
    exact ⟨.between startedAt endedAt code, handedIn, rfl, by simp [Step.ended]⟩

/-- Behind all evidence of a failure red is shown for the first time, at the end of the round. -/
theorem Course.evidence_before {plan : Plan} {events : List (Event Site)} {code : Int32}
    (course : Course plan events (.checked (.failed code)))
    : ∃ before, events = before ++ [⟨.light .red, ()⟩]
      ∧ .red ∉ View.lights.of before
      ∧ (∃ noticed, ⟨.report (.notice (.failure code)), noticed⟩ ∈ before)
      ∧ (∃ kept, ⟨.report .keepLog, kept⟩ ∈ before)
      ∧ ∀ release, ⟨.check, .found release⟩ ∈ before → ∃ record handedIn, record.code = code
        ∧ ⟨.report (.attempt record), handedIn⟩ ∈ before := by
  cases course with
  | @settled opening looking _ _ _ opens looks settles =>
    obtain ⟨before, rfl, dark, unfound, ⟨noticed, notice⟩, ⟨kept, keeps⟩, recorded⟩ :=
      settles.evidence_before
    refine ⟨opening ++ looking ++ before, (List.append_assoc ..).symm, ?_,
      ⟨noticed, List.mem_append_right _ notice⟩, ⟨kept, List.mem_append_right _ keeps⟩, ?_⟩
    · rw [List.append_assoc, View.of_behind _ opens fun _ => rfl, View.of_append, dark,
        List.append_nil]
      exact looks.not_red
    · intro release member
      have found : .found release ∈ View.findings.of (opening ++ looking ++ before) :=
        List.mem_filterMap.2 ⟨_, member, rfl⟩
      rw [List.append_assoc, View.of_behind _ opens fun _ => rfl, View.of_append, unfound,
        List.append_nil] at found
      obtain ⟨record, handedIn, same, within⟩ := recorded (looks.open_of_found found)
      exact ⟨record, handedIn, same, List.mem_append_right _ within⟩

/-- The color shown last in a round is that of its result. -/
theorem Course.behind_eq {plan : Plan} {events : List (Event Site)} {result : Result}
    (course : Course plan events result) (lamp : Lamp)
    : lamp.behind events = result.color := by
  rw [Lamp.behind]
  rcases course.colors with ⟨colors, -⟩ | ⟨colors, red, -⟩
  · rw [colors]
    rfl
  · rw [colors, red]
    rfl

theorem Result.color_ne_off (result : Result) : result.color ≠ .off := by
  rcases result with _ | (_ | _ | _) | _ <;> exact nofun

/-- Rounds in a row end where the last of them does, by induction over them. -/
theorem Rounds.last_eq {S : Signature} {site : (r : Site.Request) → Program S (Site.Answer r)}
    {plan : Plan} {cycle last : Cycle} {passages : List (Passage S)}
    (rounds : Rounds site plan cycle passages last)
    : last = (passages.getLast?.map Passage.after).getD cycle := by
  induction rounds with
  | none => rfl
  | @next _ after _ _ _ passages _ _ ih =>
    rw [ih, List.getLast?_cons]
    cases passages.getLast? <;> rfl

end Cycle

end Caretaker
