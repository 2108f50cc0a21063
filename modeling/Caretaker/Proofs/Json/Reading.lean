import Caretaker.Proofs.Json.Grammar

/-!
What readers take from the front of a text and what they leave. A reader of a kind of values takes
just the values of this kind, so it takes a value whole or not at all.
-/

namespace Caretaker.Json

open Reader

variable {α β : Type} {text rest : List UInt8} {a : α} {b : β}

/-- A reader gets a value from the front of a text and leaves the rest. -/
def Reads (reader : Reader α) (text : List UInt8) (a : α) (rest : List UInt8) : Prop :=
  reader.run text = .ok (a, rest)

-----------------------------------------------------------------------------
-- Steps

namespace Reads

theorem bind_iff {x : Reader α} {f : α → Reader β}
    : Reads (x >>= f) text b rest
      ↔ ∃ a middle, Reads x text a middle ∧ Reads (f a) middle b rest := by
  unfold Reads
  rw [StateT.run_bind]
  cases ran : x.run text with
  | error e => exact ⟨nofun, nofun⟩
  | ok got =>
    constructor
    · intro h
      exact ⟨got.1, got.2, rfl, h⟩
    · intro h
      obtain ⟨a, middle, same, h⟩ := h
      cases same
      exact h

theorem bind {x : Reader α} {f : α → Reader β} {middle : List UInt8} (first : Reads x text a middle)
    (second : Reads (f a) middle b rest)
    : Reads (x >>= f) text b rest :=
  bind_iff.2 ⟨a, middle, first, second⟩

/-- A reader gets one thing from a text. -/
theorem unique {x : Reader α} {a' : α} {rest' : List UInt8} (one : Reads x text a rest)
    (other : Reads x text a' rest')
    : a = a' ∧ rest = rest' := by
  have same := Except.ok.inj (one.symm.trans other)
  exact ⟨congrArg Prod.fst same, congrArg Prod.snd same⟩

@[simp]
theorem pure_iff {a' : α} : Reads (pure a') text a rest ↔ a = a' ∧ rest = text := by
  unfold Reads
  rw [StateT.run_pure]
  constructor
  · intro h
    cases h
    exact ⟨rfl, rfl⟩
  · rintro ⟨rfl, rfl⟩
    rfl

@[simp]
theorem not_throw {e : Error} : ¬ Reads (throw e : Reader α) text a rest :=
  nofun

@[simp]
theorem not_throw_bind {e : Error} {f : β → Reader α}
    : ¬ Reads ((throw e : Reader β) >>= f) text a rest :=
  nofun

@[simp]
theorem advance_iff {u : Unit} : Reads advance text u rest ↔ rest = text.tail := by
  constructor
  · intro h
    cases h
    rfl
  · intro same
    subst same
    rfl

/-! What a step of a reader comes to. -/

@[simp]
theorem get_bind_iff {f : List UInt8 → Reader α}
    : Reads (get >>= f) text a rest ↔ Reads (f text) text a rest := .rfl

@[simp]
theorem peek_bind_iff {f : Option UInt8 → Reader α}
    : Reads (peek >>= f) text a rest ↔ Reads (f text.head?) text a rest := .rfl

@[simp]
theorem peekPastBlanks_bind_iff {f : Option UInt8 → Reader α}
    : Reads (peekPastBlanks >>= f) text a rest
      ↔ Reads (f (text.dropWhile isBlank).head?) (text.dropWhile isBlank) a rest := .rfl

@[simp]
theorem advance_bind_iff {f : Unit → Reader α}
    : Reads (advance >>= f) text a rest ↔ Reads (f ()) text.tail a rest := .rfl

@[simp]
theorem digits_bind_iff {f : List UInt8 → Reader α}
    : Reads (digits >>= f) text a rest
      ↔ Reads (f (text.takeWhile isDigit)) (text.dropWhile isDigit) a rest := .rfl

theorem hexEscape_bind_iff {f : Nat → Reader α}
    : Reads (hexEscape >>= f) text a rest
      ↔ ∃ b₁ b₂ b₃ b₄ n tail, text = b₁ :: b₂ :: b₃ :: b₄ :: tail ∧ fourHex? b₁ b₂ b₃ b₄ = some n
        ∧ Reads (f n) tail a rest := by
  have runs (b₁ b₂ b₃ b₄ : UInt8) (tail : List UInt8)
      : hexEscape.run (b₁ :: b₂ :: b₃ :: b₄ :: tail)
        = (fourHex? b₁ b₂ b₃ b₄).elim (.error .malformed) fun n => .ok (n, tail) := by
    simp only [StateT.run, hexEscape]
    cases fourHex? b₁ b₂ b₃ b₄ <;> rfl
  constructor
  · intro h
    obtain ⟨n, middle, escape, rest⟩ := bind_iff.1 h
    rcases text with - | ⟨b₁, - | ⟨b₂, - | ⟨b₃, - | ⟨b₄, tail⟩⟩⟩⟩
    case cons.cons.cons.cons =>
      rw [Reads, runs] at escape
      cases number : fourHex? b₁ b₂ b₃ b₄ with
      | none =>
        rw [number] at escape
        cases escape
      | some n' =>
        rw [number] at escape
        cases escape
        exact ⟨b₁, b₂, b₃, b₄, n, middle, rfl, number, rest⟩
    all_goals cases escape
  · intro h
    obtain ⟨b₁, b₂, b₃, b₄, n, tail, rfl, number, h⟩ := h
    refine bind (?_ : Reads hexEscape _ n tail) h
    rw [Reads, runs, number, Option.elim_some]

end Reads

-----------------------------------------------------------------------------
-- Blanks and words

theorem Blank.dropWhile {blank : List UInt8} (isBlank : Blank blank) (text : List UInt8)
    : (blank ++ text).dropWhile Json.isBlank = text.dropWhile Json.isBlank :=
  List.dropWhile_append_of_pos isBlank

/-- Behind blanks stands the first byte of a token. -/
theorem Blank.dropWhile_cons {blank : List UInt8} (isBlank : Blank blank) {b : UInt8}
    (solid : Json.isBlank b = false) (text : List UInt8)
    : (blank ++ b :: text).dropWhile Json.isBlank = b :: text := by
  rw [isBlank.dropWhile, List.dropWhile_cons, if_neg (by simp [solid])]

/-- A token begins behind the blanks of a text. -/
theorem eq_blank_append_of_dropWhile {b : UInt8} {tail : List UInt8}
    (stands : text.dropWhile isBlank = b :: tail)
    : ∃ blank, text = blank ++ b :: tail ∧ Blank blank ∧ isBlank b = false := by
  refine ⟨text.takeWhile isBlank, ?_, ?_, ?_⟩
  · rw [← stands, List.takeWhile_append_dropWhile]
  · intro b' member
    exact List.all_eq_true.1 List.all_takeWhile b' member
  · have head := List.head?_dropWhile_not isBlank text
    rw [stands] at head
    simpa using head

theorem start_reads_iff {b : UInt8}
    : Reads start text b rest
      ↔ ∃ blank tail, text = blank ++ b :: tail ∧ rest = b :: tail ∧ Blank blank
        ∧ isBlank b = false := by
  constructor
  · intro h
    rw [start, Reads.peekPastBlanks_bind_iff] at h
    cases stands : text.dropWhile isBlank with
    | nil => simp [stands] at h
    | cons b' tail =>
      rw [stands] at h
      obtain ⟨rfl, rfl⟩ := Reads.pure_iff.1 h
      obtain ⟨blank, whole, isBlank, solid⟩ := eq_blank_append_of_dropWhile stands
      exact ⟨blank, tail, whole, rfl, isBlank, solid⟩
  · rintro ⟨blank, tail, rfl, rfl, isBlank, solid⟩
    rw [start, Reads.peekPastBlanks_bind_iff, isBlank.dropWhile_cons solid]
    exact Reads.pure_iff.2 ⟨rfl, rfl⟩

theorem word_reads_iff {cs : List Char} {u : Unit}
    : Reads (word cs) text u rest ↔ text = (cs.map fun c => code c) ++ rest := by
  induction cs generalizing text with
  | nil => simp [word, eq_comm]
  | cons c cs ih =>
    cases text with
    | nil => simp [word]
    | cons b text =>
      by_cases same : b = code c
      · simp [word, same, ih]
      · simp [word, same]

end Caretaker.Json
