import Caretaker.Device.Platform
import Caretaker.Proofs.Program.Paths

/-!
Work on the device that may fail. It runs to its first failure, or through all of its parts.
-/

namespace Caretaker.Device.Attempted

variable {α β : Type} {events : List (Event Platform)}

/-- A call that ends the work if it fails. -/
theorem trying_runs_iff {p : Program Platform (Except Code α)} {result : Except Failure α}
    : Runs (trying p).run events result
      ↔ ∃ answer, Runs p events answer ∧ result = answer.mapError Failure.platform := by
  rw [trying, ExceptT.run_mk]
  exact Runs.bind_done_iff

theorem trying_ok_iff {p : Program Platform (Except Code α)} {a : α}
    : Runs (trying p).run events (.ok a) ↔ Runs p events (.ok a) := by
  rw [trying_runs_iff]
  constructor
  · intro h
    obtain ⟨answer, ran, same⟩ := h
    cases answer with
    | error code => cases same
    | ok b =>
      cases same
      exact ran
  · intro ran
    exact ⟨.ok a, ran, rfl⟩

theorem sure_runs_iff {p : Program Platform α} {result : Except Failure α}
    : Runs (sure p).run events result ↔ ∃ a, Runs p events a ∧ result = .ok a := by
  rw [sure, ExceptT.run_lift, map_eq_pure_bind]
  exact Runs.bind_done_iff

/-- Work in two parts succeeds if both of them do. -/
theorem bind_ok_iff {x : Attempted α} {f : α → Attempted β} {b : β}
    : Runs (x >>= f).run events (.ok b)
      ↔ ∃ first second a, events = first ++ second ∧ Runs x.run first (.ok a)
        ∧ Runs (f a).run second (.ok b) := by
  rw [Runs.except_bind_iff]
  refine or_iff_right ?_
  intro h
  obtain ⟨e, same, -⟩ := h
  cases same

theorem trying_error_iff {p : Program Platform (Except Code α)} {failure : Failure}
    : Runs (trying p).run events (.error failure)
      ↔ ∃ code, Runs p events (.error code) ∧ failure = .platform code := by
  rw [trying_runs_iff]
  constructor
  · intro h
    obtain ⟨answer, ran, same⟩ := h
    cases answer with
    | ok a => cases same
    | error code => exact ⟨code, ran, Except.error.inj same⟩
  · rintro ⟨code, ran, rfl⟩
    exact ⟨.error code, ran, rfl⟩

/-- Work behind a call that ends it if it fails. -/
theorem trying_bind_iff {p : Program Platform (Except Code α)} {f : α → Attempted β}
    {result : Except Failure β}
    : Runs (trying p >>= f).run events result
      ↔ (∃ code, Runs p events (.error code) ∧ result = .error (.platform code))
        ∨ ∃ first second a, events = first ++ second ∧ Runs p first (.ok a)
          ∧ Runs (f a).run second result := by
  rw [Runs.except_bind_iff]
  simp only [trying_error_iff, trying_ok_iff]
  refine or_congr_left ?_
  constructor
  · rintro ⟨-, rfl, code, ran, rfl⟩
    exact ⟨code, ran, rfl⟩
  · rintro ⟨code, ran, rfl⟩
    exact ⟨_, rfl, code, ran, rfl⟩

/-- Behind a single call the work goes on with its answer, or ends with its error. -/
theorem call_bind_runs {p : Program Platform (Except Code α)} {f : α → Attempted β}
    {result : Except Failure β} {call : Except Code α → Event Platform}
    (ran : Runs (trying p >>= f).run events result)
    (single : ∀ {asked answer}, Runs p asked answer → asked = [call answer])
    : (∃ code, events = [call (.error code)] ∧ result = .error (.platform code))
      ∨ ∃ a rest, events = call (.ok a) :: rest ∧ Runs (f a).run rest result := by
  rcases trying_bind_iff.1 ran with ⟨code, failed, rfl⟩ | ⟨first, rest, a, rfl, done, behind⟩
  · exact .inl ⟨code, single failed, rfl⟩
  · obtain rfl := single done
    exact .inr ⟨a, rest, rfl, behind⟩

/-- The two ways behind a single call, each with its runs. -/
theorem call_bind_iff {p : Program Platform (Except Code α)} {f : α → Attempted β}
    {result : Except Failure β} {call : Except Code α → Event Platform}
    (single : ∀ {asked answer}, Runs p asked answer ↔ asked = [call answer])
    : Runs (trying p >>= f).run events result
      ↔ (∃ code, events = [call (.error code)] ∧ result = .error (.platform code))
        ∨ ∃ a rest, events = call (.ok a) :: rest ∧ Runs (f a).run rest result := by
  constructor
  · exact fun ran => call_bind_runs ran single.1
  · rintro (⟨code, rfl, rfl⟩ | ⟨a, rest, rfl, behind⟩)
    · exact trying_bind_iff.2 (.inl ⟨code, single.2 rfl, rfl⟩)
    · exact trying_bind_iff.2 (.inr ⟨_, rest, a, rfl, single.2 rfl, behind⟩)

theorem call_bind_ok {p : Program Platform (Except Code α)} {f : α → Attempted β} {b : β}
    {call : Except Code α → Event Platform} (ran : Runs (trying p >>= f).run events (.ok b))
    (single : ∀ {asked answer}, Runs p asked answer → asked = [call answer])
    : ∃ a rest, events = call (.ok a) :: rest ∧ Runs (f a).run rest (.ok b) := by
  rcases call_bind_runs ran single with ⟨code, -, ⟨⟩⟩ | onward
  exact onward

/-- Work behind something that does not fail. -/
theorem sure_bind_iff {p : Program Platform α} {f : α → Attempted β} {result : Except Failure β}
    : Runs (sure p >>= f).run events result
      ↔ ∃ first second a, events = first ++ second ∧ Runs p first a
        ∧ Runs (f a).run second result := by
  rw [Runs.except_bind_iff]
  simp only [sure_runs_iff]
  constructor
  · rintro (⟨_, -, _, -, ⟨⟩⟩ | ⟨first, second, a, rfl, ⟨_, ran, ⟨⟩⟩, rest⟩)
    exact ⟨first, second, a, rfl, ran, rest⟩
  · rintro ⟨first, second, a, rfl, ran, rest⟩
    exact .inr ⟨first, second, a, rfl, ⟨a, ran, rfl⟩, rest⟩

/-- Something has been said. -/
def said (level : Log.Level) (origin message : String) : Event Platform :=
  ⟨.report (.say ⟨level, some origin, message⟩), ()⟩

/-- Work behind something that is said. -/
theorem say_bind_iff {level : Log.Level} {origin message : String} {f : Unit → Attempted α}
    {result : Except Failure α}
    : Runs (sure (say level origin message) >>= f).run events result
      ↔ ∃ rest, events = said level origin message :: rest ∧ Runs (f ()).run rest result := by
  rw [sure_bind_iff]
  constructor
  · rintro ⟨told, rest, ⟨⟩, rfl, ran, behind⟩
    obtain rfl := Runs.request_iff.1 ran
    exact ⟨rest, rfl, behind⟩
  · rintro ⟨rest, rfl, behind⟩
    exact ⟨[_], rest, (), rfl, Runs.request_iff.2 rfl, behind⟩

-----------------------------------------------------------------------------
-- Failures

/-- Work that fails only with a code of the platform. -/
def FailsByCode (work : Attempted α) : Prop :=
  ∀ events failure, Runs work.run events (.error failure) → ∃ code, failure = .platform code

theorem FailsByCode.trying (p : Program Platform (Except Code α)) : FailsByCode (trying p) := by
  intro events failure ran
  obtain ⟨code, -, rfl⟩ := trying_error_iff.1 ran
  exact ⟨code, rfl⟩

theorem FailsByCode.sure (p : Program Platform α) : FailsByCode (sure p) := by
  intro events failure ran
  obtain ⟨a, -, ⟨⟩⟩ := sure_runs_iff.1 ran

theorem FailsByCode.pure (a : α) : FailsByCode (pure a) := by
  intro events failure ran
  cases (Runs.done_iff.1 ran).2

theorem FailsByCode.bind {x : Attempted α} {f : α → Attempted β} (first : FailsByCode x)
    (second : ∀ events a, Runs x.run events (.ok a) → FailsByCode (f a))
    : FailsByCode (x >>= f) := by
  intro events failure ran
  rcases Runs.except_bind_iff.1 ran with ⟨e, ⟨⟩, failed⟩ | ⟨before, behind, a, rfl, done, failed⟩
  · exact first _ _ failed
  · exact second _ _ done _ _ failed

end Caretaker.Device.Attempted
