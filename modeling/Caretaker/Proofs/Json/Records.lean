import Caretaker.Proofs.Json.Scalars

/-!
Reading records. A record is read by taking its members in turn: those nobody asks for are passed
over, and the others have to be new and to spell something of their kind.
-/

namespace Caretaker.Json

open Reader

variable {α β δ : Type} {text rest : List UInt8}

-----------------------------------------------------------------------------
-- Texts of records

/-- A member of a record by its name and the value behind its colon. -/
abbrev Entry := String × List UInt8

/-- The text of one member. -/
def IsMember (entry : Entry) (text : List UInt8) : Prop :=
  ∃ before name between after,
    text = before ++ code '"' :: (name ++ (between ++ code ':' :: (after ++ entry.2)))
    ∧ Blank before ∧ Spelled (Text.toBytes entry.1) name ∧ Blank between ∧ Blank after
    ∧ IsValue entry.2

/-- What follows a member: these members, and the closing brace. -/
inductive Remaining : List Entry → List UInt8 → Prop where
  | last {blank : List UInt8} (isBlank : Blank blank) : Remaining [] (blank ++ [code '}'])
  | next {blank member tail : List UInt8} {entry : Entry} {entries : List Entry}
      (isBlank : Blank blank) (isMember : IsMember entry member) (more : Remaining entries tail)
      : Remaining (entry :: entries) (blank ++ code ',' :: (member ++ tail))

/-- The text of a record with these members in this order. -/
inductive IsRecord : List Entry → List UInt8 → Prop where
  | empty {blank : List UInt8} (isBlank : Blank blank)
      : IsRecord [] (code '{' :: (blank ++ [code '}']))
  | some {member tail : List UInt8} {entry : Entry} {entries : List Entry}
      (isMember : IsMember entry member) (more : Remaining entries tail)
      : IsRecord (entry :: entries) (code '{' :: (member ++ tail))

theorem IsMember.written {entry : Entry} {text : List UInt8} (isMember : IsMember entry text)
    : Written .member text := by
  obtain ⟨before, name, between, after, rfl, isBefore, spelled, isBetween, isAfter, isValue⟩ :=
    isMember
  simpa using Written.member isBefore spelled.quoted isBetween isAfter isValue

theorem Remaining.written {entries : List Entry} {tail : List UInt8}
    (remaining : Remaining entries tail)
    : Written .members tail := by
  induction remaining with
  | last isBlank => exact .lastMember isBlank
  | next isBlank isMember _ ih => simpa using Written.nextMember isBlank isMember.written ih

/-- A record is a value. -/
theorem IsRecord.isValue {entries : List Entry} {text : List UInt8}
    (isRecord : IsRecord entries text)
    : IsValue text := by
  cases isRecord with
  | empty isBlank => exact .emptyRecord isBlank
  | some isMember more => exact .record isMember.written more.written

theorem Remaining.areValues {entries : List Entry} {tail : List UInt8}
    (remaining : Remaining entries tail)
    : ∀ entry ∈ entries, IsValue entry.2 := by
  induction remaining with
  | last => nofun
  | next _ isMember _ ih =>
    obtain ⟨_, _, _, _, -, -, -, -, -, isValue⟩ := isMember
    exact List.forall_mem_cons.2 ⟨isValue, ih⟩

theorem IsRecord.areValues {entries : List Entry} {text : List UInt8}
    (isRecord : IsRecord entries text)
    : ∀ entry ∈ entries, IsValue entry.2 := by
  cases isRecord with
  | empty => nofun
  | some isMember more =>
    obtain ⟨_, _, _, _, -, -, -, -, -, isValue⟩ := isMember
    exact List.forall_mem_cons.2 ⟨isValue, more.areValues⟩

-----------------------------------------------------------------------------
-- One step after another

/-- What a reader gets first leaves no choice for the rest of the way. -/
theorem Reads.bind_iff_of {x : Reader α} {f : α → Reader β} {a : α} {b : β} {middle : List UInt8}
    (first : Reads x text a middle)
    : Reads (x >>= f) text b rest ↔ Reads (f a) middle b rest := by
  constructor
  · intro h
    obtain ⟨a', middle', first', h⟩ := Reads.bind_iff.1 h
    obtain ⟨rfl, rfl⟩ := first.unique first'
    exact h
  · exact first.bind

theorem Spelled.textBody_reads {s : String} {name : List UInt8}
    (spelled : Spelled (Text.toBytes s) name)
    : Reads textBody (name ++ rest) s rest :=
  textBody_reads_iff.2 ⟨name, rfl, spelled⟩

theorem Blank.colon_reads {blank : List UInt8} (isBlank : Blank blank)
    : Reads colon (blank ++ code ':' :: rest) () rest :=
  colon_reads_iff.2 ⟨blank, rfl, isBlank⟩

theorem Blank.start_reads {blank : List UInt8} {b : UInt8} (isBlank : Blank blank)
    (solid : Json.isBlank b = false)
    : Reads start (blank ++ b :: rest) b (b :: rest) :=
  start_reads_iff.2 ⟨blank, rest, rfl, rfl, isBlank, solid⟩

-----------------------------------------------------------------------------
-- What members come to

namespace Member

/-- The value of a known member turns one draft into another. -/
def Puts (m : Member δ) (draft : δ) (value : List UInt8) (filled : δ) : Prop :=
  Reads (m.fill draft) value filled []

/-- A member that reads values of some kind. -/
def IsProper (m : Member δ) : Prop :=
  ∀ draft, ∃ spells, (m.fill draft).Takes spells

/-- A member reads its value as if it stood alone. -/
theorem IsProper.reads_iff {m : Member δ} {draft filled : δ} {blank value rest' : List UInt8}
    (proper : m.IsProper) (isBlank : Blank blank) (isValue : IsValue value)
    (apart : Apart value rest)
    : Reads (m.fill draft) (blank ++ (value ++ rest)) filled rest'
      ↔ rest' = rest ∧ m.Puts draft value filled := by
  obtain ⟨spells, takes⟩ := proper draft
  rw [takes.reads_iff isBlank isValue apart, Puts, takes.alone_iff isValue]

end Member

namespace Shape

/-- One member turns a draft into another: one that nobody asks for leaves it as it is. -/
def Puts (shape : Shape δ) (draft : δ) (entry : Entry) (filled : δ) : Prop :=
  match shape.members.find? (·.name = entry.1) with
  | some m => m.isFilled draft = false ∧ m.Puts draft entry.2 filled
  | none => filled = draft

/-- Members turn a draft into another one after the other. -/
def Fills (shape : Shape δ) : δ → List Entry → δ → Prop
  | draft, [], filled => filled = draft
  | draft, entry :: entries, filled =>
    ∃ next, shape.Puts draft entry next ∧ shape.Fills next entries filled

/-- A kind of record all of whose members read values of some kind. -/
def IsProper (shape : Shape δ) : Prop :=
  ∀ m ∈ shape.members, m.IsProper

variable {shape : Shape δ} {draft filled : δ} {rest' : List UInt8}

theorem member_reads_iff {entry : Entry} {name between after : List UInt8}
    (proper : shape.IsProper) (spelled : Spelled (Text.toBytes entry.1) name)
    (isBetween : Blank between) (isAfter : Blank after) (isValue : IsValue entry.2)
    (ends : EndsNumber rest)
    : Reads (shape.member draft)
        (name ++ (between ++ code ':' :: (after ++ (entry.2 ++ rest)))) filled rest'
      ↔ rest' = rest ∧ shape.Puts draft entry filled := by
  have apart : Apart entry.2 rest := fun _ => ends
  unfold member Puts
  rw [Reads.bind_iff_of spelled.textBody_reads]
  cases found : shape.members.find? (·.name = entry.1) with
  | some m =>
    have reads : Reads (m.fill draft) (after ++ (entry.2 ++ rest)) filled rest' ↔ _ :=
      (proper m (List.mem_of_find?_eq_some found)).reads_iff isAfter isValue apart
    dsimp only
    cases isFilled : m.isFilled draft with
    | true =>
      rw [if_pos rfl]
      exact iff_of_false Reads.not_throw_bind (fun h => nomatch h.2.1)
    | false =>
      rw [if_neg Bool.false_ne_true, Reads.bind_iff_of isBetween.colon_reads, reads,
        and_iff_right rfl]
  | none =>
    dsimp only
    rw [Reads.bind_iff_of isBetween.colon_reads,
      Reads.bind_iff_of (isValue.skipValue_reads isAfter apart), Reads.pure_iff, and_comm]

theorem nextName_brace {blank : List UInt8} {isFirst : Bool} (isBlank : Blank blank)
    : Reads (nextName isFirst) (blank ++ code '}' :: rest) false rest := by
  rw [nextName, Reads.bind_iff_of (isBlank.start_reads (by decide)), if_pos rfl,
    Reads.advance_bind_iff, List.tail_cons, Reads.pure_iff]
  exact ⟨rfl, rfl⟩

theorem nextName_first {blank : List UInt8} (isBlank : Blank blank)
    : Reads (nextName true) (blank ++ code '"' :: rest) true rest := by
  rw [nextName, Reads.bind_iff_of (isBlank.start_reads (by decide)), if_neg (by decide),
    if_neg (by decide), if_pos (by decide), Reads.advance_bind_iff, List.tail_cons,
    Reads.pure_iff]
  exact ⟨rfl, rfl⟩

theorem nextName_next {blank before : List UInt8} (isBlank : Blank blank) (isBefore : Blank before)
    : Reads (nextName false) (blank ++ code ',' :: (before ++ code '"' :: rest)) true rest := by
  rw [nextName, Reads.bind_iff_of (isBlank.start_reads (by decide)), if_neg (by decide),
    if_pos (by decide), Reads.advance_bind_iff, List.tail_cons,
    Reads.bind_iff_of (isBefore.start_reads (by decide)), if_pos rfl, Reads.advance_bind_iff,
    List.tail_cons, Reads.pure_iff]
  exact ⟨rfl, rfl⟩

/-- A round that finds another name puts its member into the draft and goes on behind it. -/
theorem membersIn_round {entry : Entry} {entries : List Entry} {isFirst : Bool} {rounds : Nat}
    {name between after tail : List UInt8} (proper : shape.IsProper)
    (opens : Reads (nextName isFirst) text true
      (name ++ (between ++ code ':' :: (after ++ (entry.2 ++ (tail ++ rest))))))
    (spelled : Spelled (Text.toBytes entry.1) name) (isBetween : Blank between)
    (isAfter : Blank after) (isValue : IsValue entry.2) (more : Remaining entries tail)
    (goesOn : ∀ next, Reads (shape.membersIn rounds false next) (tail ++ rest) filled rest'
      ↔ rest' = rest ∧ shape.Fills next entries filled)
    : Reads (shape.membersIn (rounds + 1) isFirst draft) text filled rest'
      ↔ rest' = rest ∧ shape.Fills draft (entry :: entries) filled := by
  have ends : EndsNumber (tail ++ rest) := more.written.endsNumber (.inr rfl)
  rw [membersIn, Reads.bind_iff_of opens, if_pos rfl, Reads.bind_iff]
  simp only [member_reads_iff proper spelled isBetween isAfter isValue ends, Fills]
  constructor
  · rintro ⟨next, _, ⟨rfl, puts⟩, h⟩
    obtain ⟨same, fills⟩ := (goesOn next).1 h
    exact ⟨same, next, puts, fills⟩
  · rintro ⟨same, next, puts, fills⟩
    exact ⟨next, _, ⟨rfl, puts⟩, (goesOn next).2 ⟨same, fills⟩⟩

/-- Members are read in their order up to the closing brace, by induction over what remains of the
record.
-/
theorem membersIn_reads_iff {entries : List Entry} {tail : List UInt8} {rounds : Nat}
    (proper : shape.IsProper) (remaining : Remaining entries tail) (enough : tail.length ≤ rounds)
    : Reads (shape.membersIn rounds false draft) (tail ++ rest) filled rest'
      ↔ rest' = rest ∧ shape.Fills draft entries filled := by
  induction remaining generalizing rounds draft with
  | last isBlank =>
    obtain ⟨rounds, rfl⟩ : ∃ n, rounds = n + 1 := ⟨rounds - 1, by simp at enough; omega⟩
    rw [membersIn, List.append_assoc, List.singleton_append,
      Reads.bind_iff_of (nextName_brace isBlank), if_neg Bool.false_ne_true, Reads.pure_iff,
      and_comm, Fills]
  | @next blank member tail entry entries isBlank isMember more ih =>
    simp only [List.length_append, List.length_cons] at enough
    obtain ⟨rounds, rfl⟩ : ∃ n, rounds = n + 1 := ⟨rounds - 1, by omega⟩
    obtain ⟨before, name, between, after, rfl, isBefore, spelled, isBetween, isAfter, isValue⟩ :=
      isMember
    simp only [List.append_assoc, List.cons_append]
    exact membersIn_round proper (nextName_next isBlank isBefore) spelled isBetween isAfter isValue
      more fun _ => ih (by omega)

/-- A record is read whole, and its members come to what they put into the draft in turn. -/
theorem read_reads_iff {entries : List Entry} {blank record : List UInt8}
    (proper : shape.IsProper) (isRecord : IsRecord entries record) (isBlank : Blank blank)
    : Reads (shape.read draft) (blank ++ (record ++ rest)) filled rest'
      ↔ rest' = rest ∧ shape.Fills draft entries filled := by
  unfold read
  cases isRecord with
  | @empty inner isInner =>
    simp only [List.append_assoc, List.cons_append, List.nil_append]
    rw [Reads.bind_iff_of (isBlank.start_reads (by decide)), if_pos rfl, Reads.advance_bind_iff,
      List.tail_cons, Reads.get_bind_iff, membersIn,
      Reads.bind_iff_of (nextName_brace isInner), if_neg Bool.false_ne_true, Reads.pure_iff,
      and_comm, Fills]
  | @some member tail entry entries isMember more =>
    obtain ⟨before, name, between, after, rfl, isBefore, spelled, isBetween, isAfter, isValue⟩ :=
      isMember
    simp only [List.append_assoc, List.cons_append]
    rw [Reads.bind_iff_of (isBlank.start_reads (by decide)), if_pos rfl, Reads.advance_bind_iff,
      List.tail_cons, Reads.get_bind_iff]
    exact membersIn_round proper (nextName_first isBefore) spelled isBetween isAfter isValue more
      fun _ => membersIn_reads_iff proper more (by simp; omega)

end Shape

/-- A text is decoded if and only if nothing but blanks follows what is read from its front. -/
theorem decode_eq_ok_iff {reader : Reader α} {a : α}
    : decode reader text = .ok a ↔ ∃ rest, Reads reader text a rest ∧ Blank rest := by
  have blank (rest : List UInt8) : (rest.dropWhile isBlank).isEmpty = true ↔ Blank rest := by
    rw [List.isEmpty_iff, List.dropWhile_eq_nil_iff]
    exact .rfl
  unfold decode Reads StateT.run
  cases ran : reader text with
  | error e => exact iff_of_false nofun (fun h => nomatch h.choose_spec.1)
  | ok got =>
    obtain ⟨a', rest⟩ := got
    dsimp only
    split
    case isTrue ends =>
      constructor
      · intro h
        cases h
        exact ⟨rest, rfl, (blank rest).1 ends⟩
      · rintro ⟨rest', same, -⟩
        cases same
        rfl
    case isFalse goesOn =>
      refine iff_of_false nofun ?_
      rintro ⟨rest', same, isBlank⟩
      cases same
      exact goesOn ((blank rest).2 isBlank)

/-- A text that holds one record is decoded if and only if the record fills a draft and nothing but
blanks follows it.
-/
theorem Shape.decode_read_eq_ok_iff {shape : Shape δ} {draft filled : δ} {entries : List Entry}
    {blank record : List UInt8} (proper : shape.IsProper) (isRecord : IsRecord entries record)
    (isBlank : Blank blank)
    : decode (shape.read draft) (blank ++ (record ++ rest)) = .ok filled
      ↔ Blank rest ∧ shape.Fills draft entries filled := by
  rw [decode_eq_ok_iff]
  simp only [read_reads_iff proper isRecord isBlank]
  constructor
  · rintro ⟨_, ⟨rfl, fills⟩, isBlank⟩
    exact ⟨isBlank, fills⟩
  · rintro ⟨isBlank, fills⟩
    exact ⟨rest, ⟨rfl, fills⟩, isBlank⟩

end Caretaker.Json
