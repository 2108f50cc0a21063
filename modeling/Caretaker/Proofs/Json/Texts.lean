import Caretaker.Proofs.Json.Reading

/-!
Reading texts between quotes. A text is read if and only if it spells something, and whatever
spells something is well formed.
-/

namespace Caretaker.Json

open Reader

variable {α : Type} {text rest : List UInt8}

-----------------------------------------------------------------------------
-- Escapes

theorem expect_bind_iff {b : UInt8} {f : Unit → Reader α} {a : α}
    : Reads (expect b >>= f) text a rest
      ↔ ∃ tail, text = b :: tail ∧ Reads (f ()) tail a rest := by
  cases text with
  | nil => simp [expect]
  | cons found tail =>
    by_cases same : found = b
    · simp [expect, same]
    · simp [expect, same]

/-- A number behind a backslash stands for a character by itself, or together with a second one. -/
theorem surrogate_reads_iff {n : Nat} {c : Char}
    : Reads (surrogate n) text c rest
      ↔ (n < 0xd800 ∨ 0xdfff < n) ∧ c = Char.ofNat n ∧ rest = text
        ∨ (0xd800 ≤ n ∧ n ≤ 0xdbff)
          ∧ ∃ b₁ b₂ b₃ b₄ low,
            text = code '\\' :: code 'u' :: b₁ :: b₂ :: b₃ :: b₄ :: rest
            ∧ fourHex? b₁ b₂ b₃ b₄ = some low
            ∧ (0xdc00 ≤ low ∧ low ≤ 0xdfff)
            ∧ c = Char.ofNat ((n - 0xd800) * 0x400 + (low - 0xdc00) + 0x10000) := by
  unfold surrogate
  split
  case isTrue isLow =>
    simp only [Bool.and_eq_true, decide_eq_true_eq] at isLow
    refine iff_of_false Reads.not_throw ?_
    omega
  case isFalse notLow =>
    simp only [Bool.and_eq_true, decide_eq_true_eq] at notLow
    split
    case isTrue isHigh =>
      simp only [Bool.and_eq_true, decide_eq_true_eq] at isHigh
      have single : ¬ (n < 0xd800 ∨ 0xdfff < n) := by omega
      rw [or_iff_right (fun h => single h.1), and_iff_right isHigh]
      simp only [expect_bind_iff, Reads.hexEscape_bind_iff]
      constructor
      · rintro ⟨tail, rfl, tail, rfl, b₁, b₂, b₃, b₄, low, tail, rfl, number, h⟩
        split at h
        case isTrue isLow =>
          obtain ⟨pair, rfl⟩ := Reads.pure_iff.1 h
          simp only [Bool.and_eq_true, decide_eq_true_eq] at isLow
          exact ⟨b₁, b₂, b₃, b₄, low, rfl, number, isLow, pair⟩
        case isFalse => exact absurd h Reads.not_throw
      · rintro ⟨b₁, b₂, b₃, b₄, low, rfl, number, isLow, pair⟩
        have isLow' : (decide (0xdc00 ≤ low) && decide (low ≤ 0xdfff)) = true := by
          simpa using isLow
        refine ⟨_, rfl, _, rfl, b₁, b₂, b₃, b₄, low, rest, rfl, number, ?_⟩
        rw [if_pos isLow']
        exact Reads.pure_iff.2 ⟨pair, rfl⟩
    case isFalse notHigh =>
      simp only [Bool.and_eq_true, decide_eq_true_eq] at notHigh
      rw [Reads.pure_iff]
      have single : n < 0xd800 ∨ 0xdfff < n := by omega
      rw [and_iff_right single]
      refine (or_iff_left ?_).symm
      exact fun h => notHigh h.1

theorem escaped_reads_iff {c : Char}
    : Reads escaped text c rest ↔ ∃ mark, text = mark ++ rest ∧ Escapes c mark := by
  unfold escaped
  rw [Reads.peek_bind_iff]
  cases text with
  | nil =>
    refine iff_of_false Reads.not_throw ?_
    intro h
    obtain ⟨mark, same, escapes⟩ := h
    cases escapes <;> cases same
  | cons b tail =>
    simp only [List.head?_cons, Reads.advance_bind_iff, List.tail_cons]
    by_cases isNumber : b = code 'u'
    · subst isNumber
      rw [if_pos rfl, Reads.hexEscape_bind_iff]
      constructor
      · intro h
        obtain ⟨b₁, b₂, b₃, b₄, n, tail, rfl, number, h⟩ := h
        rcases surrogate_reads_iff.1 h with ⟨single, rfl, rfl⟩ | ⟨isHigh, pair⟩
        · exact ⟨_, rfl, .numbered number single⟩
        · obtain ⟨b₁', b₂', b₃', b₄', low, rfl, number', isLow, same⟩ := pair
          rw [same]
          exact ⟨_, rfl, .paired number number' isHigh isLow⟩
      · intro h
        obtain ⟨mark, same, escapes⟩ := h
        cases escapes with
        | short names =>
          cases same
          exact absurd rfl (ne_u_of_shortEscape (Option.isSome_of_eq_some names))
        | numbered number single =>
          cases same
          exact ⟨_, _, _, _, _, _, rfl, number, surrogate_reads_iff.2 (.inl ⟨single, rfl, rfl⟩)⟩
        | paired number number' isHigh isLow =>
          cases same
          refine ⟨_, _, _, _, _, _, rfl, number, ?_⟩
          rw [surrogate_reads_iff]
          exact .inr ⟨isHigh, _, _, _, _, _, rfl, number', isLow, rfl⟩
    · rw [if_neg isNumber]
      constructor
      · intro h
        cases names : shortEscape? b with
        | none =>
          rw [names] at h
          exact absurd h Reads.not_throw
        | some named =>
          rw [names] at h
          obtain ⟨rfl, rfl⟩ := Reads.pure_iff.1 h
          exact ⟨[b], rfl, .short names⟩
      · intro h
        obtain ⟨mark, same, escapes⟩ := h
        cases escapes with
        | short names =>
          cases same
          rw [names]
          exact Reads.pure_iff.2 ⟨rfl, rfl⟩
        | numbered | paired =>
          cases same
          exact absurd rfl isNumber

-----------------------------------------------------------------------------
-- Texts

/-- One round reads one byte, or one escape. -/
theorem textBytes_cons_iff {r b : UInt8} {rounds tail bytes : List UInt8}
    : Reads (textBytes (r :: rounds)) (b :: tail) bytes rest
      ↔ b = code '"' ∧ bytes = [] ∧ rest = tail
        ∨ isPlain b = true
          ∧ (∃ behind, bytes = b :: behind ∧ Reads (textBytes rounds) tail behind rest)
        ∨ b = code '\\'
          ∧ ∃ mark c more behind, tail = mark ++ more ∧ Escapes c mark
            ∧ bytes = Text.toBytes (String.singleton c) ++ behind
            ∧ Reads (textBytes rounds) more behind rest := by
  rw [textBytes, Reads.peek_bind_iff]
  simp only [List.head?_cons, Reads.advance_bind_iff, List.tail_cons]
  by_cases closes : b = code '"'
  · subst closes
    rw [if_pos rfl, Reads.pure_iff]
    simp [isPlain]
  by_cases escapes : b = code '\\'
  · subst escapes
    rw [if_neg closes, if_pos rfl, Reads.bind_iff]
    have unplain : isPlain (code '\\') ≠ true := by decide
    rw [or_iff_right fun h => closes h.1, or_iff_right fun h => unplain h.1, and_iff_right rfl]
    simp only [escaped_reads_iff, Reads.bind_iff, Reads.pure_iff]
    constructor
    · rintro ⟨c, more, ⟨mark, rfl, named⟩, behind, rest', ran, rfl, rfl⟩
      exact ⟨mark, c, more, behind, rfl, named, rfl, ran⟩
    · rintro ⟨mark, c, more, behind, rfl, named, rfl, ran⟩
      exact ⟨c, more, ⟨mark, rfl, named⟩, behind, rest, ran, rfl, rfl⟩
  · rw [if_neg closes, if_neg escapes, or_iff_right fun h => closes h.1,
      or_iff_left fun h => escapes h.1]
    by_cases control : b < 0x20
    · rw [if_pos control]
      refine iff_of_false Reads.not_throw ?_
      exact fun h => (of_isPlain h.1).2.2 control
    · rw [if_neg control]
      have plain : isPlain b = true := by
        simp [isPlain, UInt8.not_lt.1 control, show b ≠ 34 from closes, show b ≠ 92 from escapes]
      simp only [plain, true_and, Reads.bind_iff, Reads.pure_iff]
      constructor
      · rintro ⟨behind, rest', ran, rfl, rfl⟩
        exact ⟨behind, rfl, ran⟩
      · rintro ⟨behind, rfl, ran⟩
        exact ⟨behind, rest, ran, rfl, rfl⟩

/-- What is read as a text spells it, by induction over the rounds. -/
theorem spelled_of_textBytes {rounds bytes : List UInt8}
    (h : Reads (textBytes rounds) text bytes rest)
    : ∃ spelling, text = spelling ++ rest ∧ Spelled bytes spelling := by
  induction rounds generalizing text bytes with
  | nil => exact absurd h Reads.not_throw
  | cons r rounds ih =>
    cases text with
    | nil =>
      rw [textBytes, Reads.peek_bind_iff] at h
      exact absurd h Reads.not_throw
    | cons b tail =>
      rcases textBytes_cons_iff.1 h with ⟨rfl, rfl, rfl⟩ | ⟨plain, behind, rfl, ran⟩ |
        ⟨rfl, mark, c, more, behind, rfl, escapes, rfl, ran⟩
      · exact ⟨[code '"'], rfl, .closed⟩
      · obtain ⟨spelling, rfl, spelled⟩ := ih ran
        exact ⟨b :: spelling, rfl, .plain plain spelled⟩
      · obtain ⟨spelling, rfl, spelled⟩ := ih ran
        exact ⟨code '\\' :: mark ++ spelling, by simp, .escaped escapes spelled⟩

/-- What spells a text is read as this text, by induction over the spelling. Each part of it takes
one round.
-/
theorem Spelled.textBytes_reads {bytes spelling rounds : List UInt8}
    (spelled : Spelled bytes spelling) (enough : spelling.length ≤ rounds.length)
    : Reads (textBytes rounds) (spelling ++ rest) bytes rest := by
  induction spelled generalizing rounds with
  | closed =>
    match rounds with
    | _ :: rounds => exact textBytes_cons_iff.2 (.inl ⟨rfl, rfl, rfl⟩)
    | [] => exact absurd enough (by simp)
  | plain plain _ ih =>
    match rounds with
    | _ :: rounds =>
      rw [List.length_cons, List.length_cons] at enough
      exact textBytes_cons_iff.2 (.inr (.inl ⟨plain, _, rfl, ih (by omega)⟩))
    | [] => exact absurd enough (by simp)
  | @escaped c mark bytes tail escapes _ ih =>
    match rounds with
    | _ :: rounds =>
      rw [List.cons_append, List.length_cons, List.length_append, List.length_cons] at enough
      have whole : mark ++ tail ++ rest = mark ++ (tail ++ rest) := List.append_assoc ..
      exact textBytes_cons_iff.2
        (.inr (.inr ⟨rfl, mark, c, _, bytes, whole, escapes, rfl, ih (by omega)⟩))
    | [] => exact absurd enough (by simp)

theorem textBody_reads_iff {s : String}
    : Reads textBody text s rest
      ↔ ∃ spelling, text = spelling ++ rest ∧ Spelled (Text.toBytes s) spelling := by
  rw [textBody, Reads.get_bind_iff, Reads.bind_iff]
  constructor
  · intro h
    obtain ⟨bytes, middle, ran, h⟩ := h
    cases decoded : Text.ofBytes? bytes with
    | none =>
      rw [decoded] at h
      exact absurd h Reads.not_throw
    | some s' =>
      rw [decoded] at h
      obtain ⟨rfl, rfl⟩ := Reads.pure_iff.1 h
      rw [Text.toBytes_of_ofBytes? decoded]
      exact spelled_of_textBytes ran
  · intro h
    obtain ⟨spelling, rfl, spelled⟩ := h
    refine ⟨Text.toBytes s, rest, spelled.textBytes_reads (by simp), ?_⟩
    rw [Text.ofBytes?_toBytes]
    exact Reads.pure_iff.2 ⟨rfl, rfl⟩

/-- What spells a text is well formed, by induction over the spelling. A pair of numbers is two
escapes in a row.
-/
theorem Spelled.quoted {bytes spelling : List UInt8} (spelled : Spelled bytes spelling)
    : Quoted spelling := by
  induction spelled with
  | closed => exact .closed
  | plain plain _ ih => exact .plain plain ih
  | escaped escapes _ ih =>
    cases escapes with
    | short names => exact .short (Option.isSome_of_eq_some names) ih
    | numbered number => exact .numbered (Option.isSome_of_eq_some number) ih
    | paired first second =>
      exact .numbered (Option.isSome_of_eq_some first)
        (.numbered (Option.isSome_of_eq_some second) ih)

end Caretaker.Json
