import Caretaker.Device
import Caretaker.Proofs.Cycle.Colors

/-!
The lamp tells the last result. The cycle shows the color for the result of each round, and on the
device the pins follow every color whose calls all succeed, whatever has failed before.
-/

namespace Caretaker.Device

open Pins

-----------------------------------------------------------------------------
-- Pins

/-- The levels of the pins. -/
abbrev Levels := Nat → Bool

/-- The levels with another one at a pin. -/
def Levels.change (levels : Levels) (pin : Nat) (level : Bool) : Levels :=
  fun other => if other = pin then level else levels other

/-- The pin that a request drives. -/
def Request.pin? : Request → Option Nat
  | .call (.usePin pin) | .call (.setPin pin _) => some pin
  | _ => none

/-- What becomes of the pins. A call that sets one of them does so if it succeeds. Any other call
about a pin may leave it at any level, and nothing else touches it.
-/
inductive Drives : Levels → Event Platform → Levels → Prop where
  | set {levels : Levels} {pin : Nat} {level : Bool}
      : Drives levels ⟨.call (.setPin pin level), .ok ()⟩ (levels.change pin level)
  | unset {levels : Levels} {pin : Nat} {level : Bool} {code : Code} (stays : Bool)
      : Drives levels ⟨.call (.setPin pin level), .error code⟩ (levels.change pin stays)
  | used {levels : Levels} {pin : Nat} {answer : Except Code Unit} (begins : Bool)
      : Drives levels ⟨.call (.usePin pin), answer⟩ (levels.change pin begins)
  | other {levels : Levels} {e : Event Platform} (untouched : e.request.pin? = none)
      : Drives levels e levels

/-- What becomes of the pins in events one after the other. -/
def DrivesAll : Levels → List (Event Platform) → Levels → Prop
  | levels, [], after => after = levels
  | levels, e :: events, after => ∃ next, Drives levels e next ∧ DrivesAll next events after

/-- The pins show a color. -/
def Lit (lamp : Lamp) (levels : Levels) : Prop :=
  (⟨levels redPin, levels greenPin, levels bluePin⟩ : Lamp.Channels) = lamp.channels

/-- A pin could not be set. -/
def isUnset : Event Platform → Bool
  | ⟨.call (.setPin ..), .error _⟩ => true
  | _ => false

variable {levels after : Levels} {events : List (Event Platform)}

theorem Drives.set_iff {pin : Nat} {level : Bool}
    : Drives levels ⟨.call (.setPin pin level), .ok ()⟩ after
      ↔ after = levels.change pin level := by
  constructor
  · intro drives
    cases drives with
    | set => rfl
    | other untouched => cases untouched
  · rintro rfl
    exact .set

theorem DrivesAll.append_iff {first second : List (Event Platform)}
    : DrivesAll levels (first ++ second) after
      ↔ ∃ middle, DrivesAll levels first middle ∧ DrivesAll middle second after := by
  induction first generalizing levels with
  | nil => simp [DrivesAll]
  | cons e first ih =>
    simp only [List.cons_append, DrivesAll, ih]
    constructor
    · rintro ⟨next, drives, middle, head, tail⟩
      exact ⟨middle, ⟨next, drives, head⟩, tail⟩
    · rintro ⟨middle, ⟨next, drives, head⟩, tail⟩
      exact ⟨next, drives, middle, head, tail⟩

/-- All pins are set for a color unless one of them cannot be set. -/
theorem apply_runs {lamp : Lamp} {result : Except Code Unit}
    (ran : Runs (apply lamp).run events result) (unfailed : events.any isUnset = false)
    : events
        = [⟨.call (.setPin redPin lamp.channels.red), .ok ()⟩,
          ⟨.call (.setPin greenPin lamp.channels.green), .ok ()⟩,
          ⟨.call (.setPin bluePin lamp.channels.blue), .ok ()⟩]
      ∧ result = .ok () := by
  have set {pin : Nat} {level : Bool} {events : List (Event Platform)} {answer : Except Code Unit}
      (ran : Runs (setPin pin level).run events answer)
      : events = [⟨.call (.setPin pin level), answer⟩] :=
    Runs.request_iff.1 ran
  rw [apply, Runs.except_bind_iff] at ran
  rcases ran with ⟨code, rfl, failed⟩ | ⟨first, rest, ⟨⟩, rfl, done, ran⟩
  · obtain rfl := set failed
    cases unfailed
  obtain rfl := set done
  rw [Runs.except_bind_iff] at ran
  rcases ran with ⟨code, rfl, failed⟩ | ⟨second, rest, ⟨⟩, rfl, done, last⟩
  · obtain rfl := set failed
    cases unfailed
  obtain rfl := set done
  obtain rfl := set last
  cases result with
  | ok => exact ⟨rfl, rfl⟩
  | error code => cases unfailed

/-- A lamp whose pins can all be set shows its color, whatever levels they had before. -/
theorem lit_of_light {lamp : Lamp} (ran : Runs (light lamp) events ())
    (unfailed : events.any isUnset = false) (driven : DrivesAll levels events after)
    : Lit lamp after := by
  obtain ⟨setting, telling, result, rfl, applied, told⟩ := Runs.bind_iff.1 ran
  rw [List.any_append, Bool.or_eq_false_iff] at unfailed
  obtain ⟨rfl, rfl⟩ := apply_runs applied unfailed.1
  obtain ⟨rfl, -⟩ := Runs.done_iff.1 told
  obtain ⟨_, red, _, green, _, blue, rfl⟩ := driven
  obtain rfl := Drives.set_iff.1 red
  obtain rfl := Drives.set_iff.1 green
  obtain rfl := Drives.set_iff.1 blue
  rfl

-----------------------------------------------------------------------------
-- The last result

/-- The lamp tells the last result. In rounds from the first one on the cycle remembers the color
shown last, which is that of the last result, and it is off only before the first round. A round
shows just the color of its result, except that it shows blue and then red if an installation fails.
It shows blue before it installs anything, and red for a failure behind all evidence. On the device
the pins show every color for which all of them could be set, whatever became of the pins before.
-/
theorem lamp_tells_last_result {plan : Cycle.Plan} {passages : List (Cycle.Passage Site)}
    {last : Cycle} (rounds : Cycle.Rounds Site.ask plan {} passages last)
    : last.lamp = Lamp.off.behind (passages.flatMap Cycle.Passage.events)
      ∧ (last.lamp = .off ↔ passages = [])
      ∧ (∀ p ∈ passages.getLast?, last.lamp = p.result.color)
      ∧ (∀ p ∈ passages, p.after.lamp = p.result.color
        ∧ ((View.lights.of p.events = [p.result.color]
              ∧ ∀ release code, ⟨.install release, .failed code⟩ ∉ p.events)
          ∨ View.lights.of p.events = [.blue, .red] ∧ p.result.color = .red
            ∧ ∃ release code, ⟨.install release, .failed code⟩ ∈ p.events)
        ∧ (∀ before release installation rest,
          p.events = before ++ ⟨.install release, installation⟩ :: rest
            → View.lights.of before = [.blue])
        ∧ (∀ code, p.result = .checked (.failed code)
          → ∃ before, p.events = before ++ [⟨.light .red, ()⟩]
            ∧ .red ∉ View.lights.of before
            ∧ (∃ noticed, ⟨.report (.notice (.failure code)), noticed⟩ ∈ before)
            ∧ (∃ kept, ⟨.report .keepLog, kept⟩ ∈ before)
            ∧ ∀ release, ⟨.check, .found release⟩ ∈ before → ∃ record handedIn, record.code = code
              ∧ ⟨.report (.attempt record), handedIn⟩ ∈ before))
      ∧ ∀ width backend lamp earlier setting levels after,
        Runs (site width backend (.light lamp)) setting () → setting.any isUnset = false
        → DrivesAll levels (earlier ++ setting) after → Lit lamp after := by
  have each (p : Cycle.Passage Site) (member : p ∈ passages)
      : p.after.lamp = p.result.color ∧ Cycle.Course plan p.events p.result := by
    obtain ⟨-, -, asked, ran, course, met⟩ := (rounds.courses rfl).2 p member
    rw [Site.met_ask_iff.1 met]
    exact ⟨(Cycle.ofSteps_shows.round plan ran).trans (course.behind_eq _), course⟩
  have lastly (p : Cycle.Passage Site) (isLast : p ∈ passages.getLast?)
      : last.lamp = p.result.color := by
    rw [rounds.last_eq, Option.mem_def.1 isLast]
    exact (each p (List.mem_of_getLast? isLast)).1
  refine ⟨rounds.lamp_eq, ?_, lastly, fun p member => ?_, ?_⟩
  · constructor
    · intro off
      refine List.getLast?_eq_none_iff.1 (Option.eq_none_iff_forall_not_mem.2 fun p isLast => ?_)
      exact p.result.color_ne_off ((lastly p isLast).symm.trans off)
    · rintro rfl
      cases rounds
      rfl
  · obtain ⟨shown, course⟩ := each p member
    refine ⟨shown, course.colors, ?_, ?_⟩
    · intro before release installation rest split
      rw [split] at course
      exact course.blue_before
    · intro code failed
      rw [failed] at course
      exact course.evidence_before
  · intro width backend lamp earlier setting levels after ran unfailed driven
    obtain ⟨middle, -, driven⟩ := DrivesAll.append_iff.1 driven
    exact lit_of_light ran unfailed driven

theorem lamp_tells_last_result_failing
    : let p := Cycle.Passage.steady (.found ⟨"2.0.0", "http://host/image", none⟩) (.failed (-3))
        ⟨{}, false⟩
      Cycle.Rounds Site.ask ⟨{}, false⟩ {} [p] p.after ∧ p.after.lamp = .red
      ∧ View.lights.of p.events = [.blue, .red]
      ∧ ∃ setting after, Runs (site .bits32 {} (.light .green)) setting ()
        ∧ DrivesAll (fun _ => true) (⟨.call (.setPin redPin true), .error ⟨-1⟩⟩ :: setting) after
        ∧ Lit .green after := by
  intro p
  have rounds : Cycle.Rounds Site.ask ⟨{}, false⟩ {} [p] p.after := .steady
  obtain ⟨-, -, lastly, -, device⟩ := lamp_tells_last_result rounds
  let setting : List (Event Platform) :=
    [⟨.call (.setPin redPin false), .ok ()⟩, ⟨.call (.setPin greenPin true), .ok ()⟩,
      ⟨.call (.setPin bluePin false), .ok ()⟩]
  have ran : Runs (site .bits32 {} (.light .green)) setting () :=
    .ask _ (.ask _ (.ask _ (.done ())))
  have driven : DrivesAll (fun _ => true)
      ([⟨.call (.setPin redPin true), .error ⟨-1⟩⟩] ++ setting) _ :=
    ⟨_, .unset true, _, .set, _, .set, _, .set, rfl⟩
  have lit := device .bits32 {} _ _ _ _ _ ran rfl driven
  exact ⟨rounds, lastly p rfl, rfl, setting, _, ran, driven, lit⟩

end Caretaker.Device
