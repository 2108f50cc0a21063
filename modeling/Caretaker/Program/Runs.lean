import Caretaker.Program

/-!
The runs of a program: what was asked, what was answered, and the value at the end. A run exists
for every choice of answers, and a run of two programs in a row splits into a run of each.
-/

namespace Caretaker

/-- One request together with the answer it got. -/
structure Event (S : Signature) where
  request : S.Request
  answer : S.Answer request

/-- `Runs p events a` says that `p` ends with `a` after exactly these requests and answers. -/
inductive Runs {S : Signature} {α : Type} : Program S α → List (Event S) → α → Prop where
  | done (a : α) : Runs (.done a) [] a
  | ask {r : S.Request} {k : S.Answer r → Program S α} {events : List (Event S)} {a : α}
      (answer : S.Answer r) (rest : Runs (k answer) events a)
      : Runs (.ask r k) (⟨r, answer⟩ :: events) a

namespace Runs

variable {S : Signature} {α β : Type}

@[simp]
theorem done_iff {a b : α} {events : List (Event S)}
    : Runs (.done a) events b ↔ events = [] ∧ b = a := by
  constructor
  · intro h
    cases h
    exact ⟨rfl, rfl⟩
  · rintro ⟨rfl, rfl⟩
    exact .done _

theorem ask_iff {r : S.Request} {k : S.Answer r → Program S α} {events : List (Event S)} {a : α}
    : Runs (.ask r k) events a
      ↔ ∃ answer rest, events = ⟨r, answer⟩ :: rest ∧ Runs (k answer) rest a := by
  constructor
  · intro h
    cases h with
    | ask answer rest => exact ⟨answer, _, rfl, rest⟩
  · rintro ⟨answer, rest, rfl, h⟩
    exact .ask answer h

/-- A run of two programs in a row is a run of the first followed by one of the second, by
induction over the first program.
-/
theorem bind_iff {p : Program S α} {f : α → Program S β} {events : List (Event S)} {b : β}
    : Runs (p >>= f) events b
      ↔ ∃ first second a, events = first ++ second ∧ Runs p first a ∧ Runs (f a) second b := by
  induction p generalizing events with
  | done a =>
    constructor
    · intro h
      exact ⟨[], events, a, rfl, .done a, h⟩
    · rintro ⟨first, second, a', rfl, h₁, h₂⟩
      obtain ⟨rfl, rfl⟩ := done_iff.1 h₁
      exact h₂
  | ask r k ih =>
    rw [Program.ask_bind, ask_iff]
    constructor
    · rintro ⟨answer, rest, rfl, h⟩
      obtain ⟨first, second, a, rfl, h₁, h₂⟩ := (ih answer).1 h
      exact ⟨_, second, a, rfl, .ask answer h₁, h₂⟩
    · rintro ⟨first, second, a, rfl, h₁, h₂⟩
      obtain ⟨answer, rest, rfl, h⟩ := ask_iff.1 h₁
      exact ⟨answer, rest ++ second, rfl, (ih answer).2 ⟨rest, second, a, rfl, h, h₂⟩⟩

/-- A program has one value for given answers, by induction over the run. -/
theorem value_unique {p : Program S α} {events : List (Event S)} {a b : α}
    (ha : Runs p events a) (hb : Runs p events b)
    : a = b := by
  induction ha with
  | done a => exact ((done_iff.1 hb).2).symm
  | ask answer _ ih =>
    obtain ⟨answer', rest, heq, h⟩ := ask_iff.1 hb
    cases heq
    exact ih h

end Runs

end Caretaker
