import Caretaker.Proofs.Json.Records

/-!
Records by what their members give. If every known member takes the values that spell something of
its name, a record fills a draft if and only if it gives things of different names, wherever they
stand and whatever stands between them.
-/

namespace Caretaker.Json

variable {δ σ α : Type}

/-- What the members of a kind of record can give: each thing has the name of a member, the values
that spell it are those that this member takes, and it fills this member of a draft and no other.
-/
structure Filling (shape : Shape δ) (σ : Type) where
  name : σ → String
  Spells : σ → List UInt8 → Prop
  empty : δ
  put : δ → σ → δ
  name_mem (s : σ) : name s ∈ shape.members.map (·.name)
  takes {m : Member δ} (member : m ∈ shape.members) (d : δ)
    : (m.fill d).Takes fun filled value => ∃ s, name s = m.name ∧ Spells s value ∧ filled = put d s
  isFilled_empty {m : Member δ} (member : m ∈ shape.members) : m.isFilled empty = false
  isFilled_put {m : Member δ} (member : m ∈ shape.members) (d : δ) (s : σ)
    : m.isFilled (put d s) = (m.isFilled d || m.name = name s)

/-- A member for which the value of one kind of thing is read. -/
theorem Reader.Takes.put {reader : Reader α} {spells : α → List UInt8 → Prop} {name : σ → String}
    {Spells : σ → List UInt8 → Prop} {put : δ → σ → δ} {called : String} {d : δ} (make : α → σ)
    (takes : reader.Takes spells) (spelled : ∀ a value, Spells (make a) value ↔ spells a value)
    (named : ∀ s, name s = called ↔ ∃ a, s = make a)
    : Reader.Takes (do return put d (make (← reader)))
        fun filled value => ∃ s, name s = called ∧ Spells s value ∧ filled = put d s := by
  have same (filled : δ) (value : List UInt8)
      : (∃ a, spells a value ∧ filled = put d (make a))
        ↔ ∃ s, name s = called ∧ Spells s value ∧ filled = put d s := by
    constructor
    · rintro ⟨a, spells, rfl⟩
      exact ⟨make a, (named _).2 ⟨a, rfl⟩, (spelled ..).2 spells, rfl⟩
    · rintro ⟨s, isNamed, spells, rfl⟩
      obtain ⟨a, rfl⟩ := (named s).1 isNamed
      exact ⟨a, (spelled ..).1 spells, rfl⟩
  simpa only [same] using @Reader.Takes.map _ _ _ _ (fun a => put d (make a)) takes

namespace Filling

variable {shape : Shape δ}

theorem isProper (f : Filling shape σ) : shape.IsProper :=
  fun _ member draft => ⟨_, f.takes member draft⟩

/-- The names of the members. -/
def names (_ : Filling shape σ) : List String :=
  shape.members.map (·.name)

variable (f : Filling shape σ)

/-- The members of a record give these things in this order, among members of other names. -/
inductive Gives : List Entry → List σ → Prop where
  | nil : Gives [] []
  | known {entry : Entry} {entries : List Entry} {s : σ} {given : List σ}
      (named : f.name s = entry.1) (spells : f.Spells s entry.2) (more : Gives entries given)
      : Gives (entry :: entries) (s :: given)
  | other {entry : Entry} {entries : List Entry} {given : List σ} (unknown : entry.1 ∉ f.names)
      (more : Gives entries given)
      : Gives (entry :: entries) given

/-- The draft that has these things and no others. -/
def draftOf (given : List σ) : δ :=
  given.foldl f.put f.empty

theorem draftOf_concat (given : List σ) (s : σ)
    : f.draftOf (given ++ [s]) = f.put (f.draftOf given) s := by
  simp [draftOf]

/-- A member is filled if and only if something of its name was given, by induction from the last
thing that was.
-/
theorem isFilled_draftOf {m : Member δ} (member : m ∈ shape.members) (given : List σ)
    : m.isFilled (f.draftOf given) = true ↔ m.name ∈ given.map f.name := by
  induction given using List.reverseRecOn with
  | nil => simp [draftOf, f.isFilled_empty member]
  | append_singleton given s ih =>
    rw [draftOf_concat, f.isFilled_put member, Bool.or_eq_true, ih]
    simp

variable {entry : Entry} {entries : List Entry} {given earlier : List σ} {filled : δ}

theorem puts_other_iff {d : δ} (unknown : entry.1 ∉ f.names)
    : shape.Puts d entry filled ↔ filled = d := by
  have none : shape.members.find? (·.name = entry.1) = none := by
    simpa [names] using unknown
  unfold Shape.Puts
  rw [none]

/-- A known member puts in what its value spells, unless something of its name is there. -/
theorem puts_known_iff (known : entry.1 ∈ f.names) (isValue : IsValue entry.2)
    : shape.Puts (f.draftOf earlier) entry filled
      ↔ entry.1 ∉ earlier.map f.name
        ∧ ∃ s, f.name s = entry.1 ∧ f.Spells s entry.2 ∧ filled = f.draftOf (earlier ++ [s]) := by
  obtain ⟨m, found⟩ : ∃ m, shape.members.find? (·.name = entry.1) = some m := by
    rw [← Option.isSome_iff_exists]
    simpa [names] using known
  have member := List.mem_of_find?_eq_some found
  have named : m.name = entry.1 := by simpa using List.find?_some found
  unfold Shape.Puts
  rw [found]
  dsimp only
  rw [Member.Puts, (f.takes member _).alone_iff isValue, ← Bool.not_eq_true,
    f.isFilled_draftOf member, named]
  simp only [draftOf_concat]

theorem gives_known_iff (known : entry.1 ∈ f.names)
    : f.Gives (entry :: entries) given
      ↔ ∃ s later, given = s :: later ∧ f.name s = entry.1 ∧ f.Spells s entry.2
        ∧ f.Gives entries later := by
  constructor
  · intro gives
    cases gives with
    | known named spells more => exact ⟨_, _, rfl, named, spells, more⟩
    | other unknown => exact absurd known unknown
  · rintro ⟨s, later, rfl, named, spells, more⟩
    exact .known named spells more

theorem gives_other_iff (unknown : entry.1 ∉ f.names)
    : f.Gives (entry :: entries) given ↔ f.Gives entries given := by
  constructor
  · intro gives
    cases gives with
    | known named =>
      rw [← named] at unknown
      exact absurd (f.name_mem _) unknown
    | other _ more => exact more
  · exact .other unknown

/-- Members fill a draft if and only if they give things whose names are all different and new, by
induction over the members.
-/
theorem fills_iff (areValues : ∀ entry ∈ entries, IsValue entry.2)
    : shape.Fills (f.draftOf earlier) entries filled
      ↔ ∃ later, f.Gives entries later ∧ (later.map f.name).Nodup
        ∧ (∀ s ∈ later, f.name s ∉ earlier.map f.name)
        ∧ filled = f.draftOf (earlier ++ later) := by
  induction entries generalizing earlier with
  | nil =>
    rw [Shape.Fills]
    constructor
    · rintro rfl
      exact ⟨[], .nil, by simp, by simp, by simp⟩
    · rintro ⟨later, gives, -, -, rfl⟩
      cases gives
      simp
  | cons entry entries ih =>
    have isValue := areValues entry (by simp)
    have ih (earlier : List σ) : shape.Fills (f.draftOf earlier) entries filled ↔ _ :=
      ih fun e member => areValues e (.tail _ member)
    rw [Shape.Fills]
    by_cases known : entry.1 ∈ f.names
    · simp only [f.puts_known_iff known isValue, f.gives_known_iff known]
      constructor
      · rintro ⟨_, ⟨new, s, named, spells, rfl⟩, fills⟩
        obtain ⟨later, gives, distinct, allNew, rfl⟩ := (ih _).1 fills
        simp only [List.map_append, List.map_cons, List.map_nil, List.mem_append,
          List.mem_singleton, not_or] at allNew
        refine ⟨s :: later, ⟨s, later, rfl, named, spells, gives⟩, ?_, ?_, by simp⟩
        · refine List.nodup_cons.2 ⟨?_, distinct⟩
          intro again
          obtain ⟨t, member, same⟩ := List.mem_map.1 again
          exact (allNew t member).2 same
        · intro t member
          rcases List.mem_cons.1 member with rfl | member
          · rw [named]
            exact new
          · exact (allNew t member).1
      · rintro ⟨_, ⟨s, later, rfl, named, spells, gives⟩, distinct, allNew, rfl⟩
        obtain ⟨once, distinct⟩ := List.nodup_cons.1 distinct
        refine ⟨_, ⟨?_, s, named, spells, rfl⟩, (ih _).2 ⟨later, gives, distinct, ?_, by simp⟩⟩
        · rw [← named]
          exact allNew s (by simp)
        · intro t member again
          rw [List.map_append, List.mem_append] at again
          rcases again with again | again
          · exact allNew t (.tail _ member) again
          · exact once (List.mem_map.2 ⟨t, member, by simpa using again⟩)
    · simp only [f.puts_other_iff known, exists_eq_left, f.gives_other_iff known]
      exact ih earlier

/-- A look at a draft for things of one name finds the one that was given, if one was. By induction
from the last thing that was given.
-/
theorem look_draftOf_iff {look : δ → Option α} {make : α → σ} {a : α} (called : String)
    (isOpen : look f.empty = none) (own : ∀ d a, look (f.put d (make a)) = some a)
    (others : ∀ d s, f.name s ≠ called → look (f.put d s) = look d)
    (named : ∀ s, f.name s = called ↔ ∃ a, s = make a) (distinct : (given.map f.name).Nodup)
    : look (f.draftOf given) = some a ↔ make a ∈ given := by
  induction given using List.reverseRecOn with
  | nil => simp [draftOf, isOpen]
  | append_singleton given s ih =>
    rw [List.map_append, List.map_singleton, List.nodup_append] at distinct
    obtain ⟨distinct, -, apart⟩ := distinct
    rw [draftOf_concat, List.mem_append, List.mem_singleton]
    by_cases same : f.name s = called
    · obtain ⟨b, rfl⟩ := (named s).1 same
      have before : make a ∉ given := by
        intro member
        refine apart _ (List.mem_map_of_mem member) _ (List.mem_singleton_self _) ?_
        rw [same, (named _).2 ⟨a, rfl⟩]
      rw [own, or_iff_right before, Option.some.injEq]
      constructor
      · rintro rfl
        rfl
      · intro equal
        have looked := own f.empty a
        rw [equal, own] at looked
        exact Option.some.inj looked
    · have other : make a ≠ s := by
        rintro rfl
        exact same ((named _).2 ⟨a, rfl⟩)
      rw [others _ _ same, ih distinct, or_iff_left other]

/-- What a record is decoded to, if it is: the draft of the different things that it gives. -/
theorem decode_eq_ok_iff {before record behind : List UInt8} (isRecord : IsRecord entries record)
    (isBefore : Blank before)
    : Reader.decode (shape.read f.empty) (before ++ (record ++ behind)) = .ok filled
      ↔ Blank behind
        ∧ ∃ given, f.Gives entries given ∧ (given.map f.name).Nodup ∧ filled = f.draftOf given := by
  rw [Shape.decode_read_eq_ok_iff f.isProper isRecord isBefore,
    show f.empty = f.draftOf [] from rfl, f.fills_iff isRecord.areValues]
  simp

end Filling

end Caretaker.Json
