import Caretaker.Proofs.Json.Filling
import Caretaker.Device.Server

/-!
Manifests as records. A manifest describes a release if it gives a version and a place once each and
a size at most once, wherever in it they stand and whatever stands between them.
-/

namespace Caretaker.Device.Server

open Json

/-- What a member of a manifest gives. -/
inductive Field where
  | version (s : String)
  | url (s : String)
  | size (n : Option Nat)
deriving DecidableEq

namespace Field

/-- The name under which it is given. -/
def name : Field → String
  | .version _ => "version"
  | .url _ => "url"
  | .size _ => "size"

/-- The values that spell it. A size may be left open, and otherwise it is a word. -/
def Spells (width : Width) (field : Field) (value : List UInt8) : Prop :=
  match field with
  | .version s | .url s => Json.Spells s value
  | .size none => value = codes "null"
  | .size (some n) => n < width.values ∧ Decimal n value

/-- A draft with one member filled in. -/
def put (d : Draft) : Field → Draft
  | .version s => { d with version := some s }
  | .url s => { d with url := some s }
  | .size n => { d with size := some n }

/-- A member for which the value of one kind is read. -/
theorem takes_of {width : Width} {α : Type} {reader : Reader α} {spells : α → List UInt8 → Prop}
    {called : String} {d : Draft} (make : α → Field) (takes : reader.Takes spells)
    (spelled : ∀ a value, (make a).Spells width value ↔ spells a value)
    (named : ∀ field : Field, field.name = called ↔ ∃ a, field = make a)
    : Reader.Takes (do return put d (make (← reader)))
        fun filled value => ∃ field : Field, field.name = called ∧ field.Spells width value
          ∧ filled = put d field :=
  takes.put make spelled named

end Field

/-- A word that may be left open. -/
theorem size_takes (width : Width)
    : (Reader.optional (Reader.amount (width.values - 1))).Takes
        (SpellsOptional fun n value => n ≤ width.values - 1 ∧ Decimal n value) := by
  have fits : width.values - 1 ≤ Number.wholeLimit := by cases width <;> decide
  refine optional_takes (natural_takes fits) ?_
  rintro n value ⟨-, decimal⟩ isWord
  obtain ⟨d, tail, rfl, digit⟩ := decimal.head
  exact ne_of_isDigit digit (by decide) (Option.some.inj isWord)

theorem size_spells_iff (width : Width) (size : Option Nat) (value : List UInt8)
    : (Field.size size).Spells width value
      ↔ SpellsOptional (fun n value => n ≤ width.values - 1 ∧ Decimal n value) size value := by
  cases size with
  | none => exact .rfl
  | some n => exact and_congr_left' (Nat.lt_iff_le_pred width.values_pos)

/-- Manifests are filled with what their members give. -/
def filling (width : Width) : Filling (shape width) Field where
  name := Field.name
  Spells := Field.Spells width
  empty := {}
  put := Field.put
  name_mem field := by cases field <;> simp [shape, Field.name]
  takes member d := by
    simp only [shape, List.mem_cons, List.not_mem_nil, or_false] at member
    rcases member with rfl | rfl | rfl
    · refine Field.takes_of .version text_takes (fun _ _ => .rfl) ?_
      rintro (_ | _) <;> simp [Field.name]
    · refine Field.takes_of .url text_takes (fun _ _ => .rfl) ?_
      rintro (_ | _) <;> simp [Field.name]
    · refine Field.takes_of .size (size_takes width) (size_spells_iff width) ?_
      rintro (_ | _) <;> simp [Field.name]
  isFilled_empty member := by
    simp only [shape, List.mem_cons, List.not_mem_nil, or_false] at member
    rcases member with rfl | rfl | rfl <;> rfl
  isFilled_put member d field := by
    simp only [shape, List.mem_cons, List.not_mem_nil, or_false] at member
    rcases member with rfl | rfl | rfl
    all_goals cases field <;> simp [Field.put, Field.name]

/-- The members of a record describe a release. -/
def Describes (width : Width) (entries : List Entry) (release : Release) : Prop :=
  ∃ fields, (filling width).Gives entries fields ∧ (fields.map Field.name).Nodup
    ∧ .version release.version ∈ fields ∧ .url release.url ∈ fields
    ∧ ∀ n, release.size = some n ↔ .size (some n) ∈ fields

-----------------------------------------------------------------------------
-- Drafts

section

variable (width : Width) {fields : List Field} (distinct : (fields.map Field.name).Nodup)

include distinct

theorem version_draftOf_iff {v : String}
    : ((filling width).draftOf fields).version = some v ↔ .version v ∈ fields := by
  refine (filling width).look_draftOf_iff "version" rfl (fun _ _ => rfl) ?_ ?_ distinct
  · rintro d (_ | _ | _) other <;> first | rfl | exact absurd rfl other
  · rintro (_ | _ | _) <;> simp [filling, Field.name]

theorem url_draftOf_iff {u : String}
    : ((filling width).draftOf fields).url = some u ↔ .url u ∈ fields := by
  refine (filling width).look_draftOf_iff "url" rfl (fun _ _ => rfl) ?_ ?_ distinct
  · rintro d (_ | _ | _) other <;> first | rfl | exact absurd rfl other
  · rintro (_ | _ | _) <;> simp [filling, Field.name]

theorem size_draftOf_iff {n : Option Nat}
    : ((filling width).draftOf fields).size = some n ↔ .size n ∈ fields := by
  refine (filling width).look_draftOf_iff "size" rfl (fun _ _ => rfl) ?_ ?_ distinct
  · rintro d (_ | _ | _) other <;> first | rfl | exact absurd rfl other
  · rintro (_ | _ | _) <;> simp [filling, Field.name]

end

/-- A draft is complete with a version and a place, and a size that is open unless it was given. -/
theorem complete_eq_ok_iff {d : Draft} {release : Release}
    : d.complete = .ok release
      ↔ d.version = some release.version ∧ d.url = some release.url
        ∧ release.size = d.size.getD none := by
  obtain ⟨version, url, size⟩ := release
  obtain ⟨_ | v, _ | u, n⟩ := d <;>
    simp [Draft.complete, eq_comm, pure, Except.pure]

/-- A manifest is decoded to what its complete draft says. -/
theorem releaseOfJson_eq_ok_iff {width : Width} {text : List UInt8} {release : Release}
    : releaseOfJson width text = .ok release
      ↔ ∃ d, Reader.decode ((shape width).read {}) text = .ok d ∧ d.complete = .ok release := by
  have lifted (d : Draft) (text rest : List UInt8)
      : Reads (d.complete : Reader Release) text release rest
        ↔ d.complete = .ok release ∧ rest = text := by
    cases complete : d.complete with
    | error e => exact iff_of_false nofun (fun h => nomatch h.1)
    | ok made =>
      constructor
      · intro h
        cases h
        exact ⟨rfl, rfl⟩
      · rintro ⟨same, rfl⟩
        cases same
        rfl
  unfold releaseOfJson
  simp only [decode_eq_ok_iff, Reads.bind_iff, lifted]
  constructor
  · rintro ⟨rest, ⟨d, middle, read, complete, rfl⟩, isBlank⟩
    exact ⟨d, ⟨rest, read, isBlank⟩, complete⟩
  · rintro ⟨d, ⟨rest, read, isBlank⟩, complete⟩
    exact ⟨rest, ⟨d, rest, read, complete, rfl⟩, isBlank⟩

/-- A text that holds one record is a manifest if and only if the record describes a release and
nothing but blanks follows it, and it is the manifest of this release.
-/
theorem releaseOfJson_record_iff {width : Width} {entries : List Entry}
    {before record behind : List UInt8} {release : Release} (isRecord : IsRecord entries record)
    (isBefore : Blank before)
    : releaseOfJson width (before ++ (record ++ behind)) = .ok release
      ↔ Blank behind ∧ Describes width entries release := by
  rw [releaseOfJson_eq_ok_iff]
  have decoded (d : Draft)
      : Reader.decode ((shape width).read {}) (before ++ (record ++ behind)) = .ok d ↔ _ :=
    (filling width).decode_eq_ok_iff isRecord isBefore
  simp only [decoded, complete_eq_ok_iff]
  constructor
  · rintro ⟨_, ⟨isBehind, fields, gives, distinct, rfl⟩, version, url, size⟩
    refine ⟨isBehind, fields, gives, distinct, (version_draftOf_iff width distinct).1 version,
      (url_draftOf_iff width distinct).1 url, fun n => ?_⟩
    rw [← size_draftOf_iff width distinct, size, Option.getD_eq_iff]
    simp
  · rintro ⟨isBehind, fields, gives, distinct, version, url, size⟩
    refine ⟨_, ⟨isBehind, fields, gives, distinct, rfl⟩,
      (version_draftOf_iff width distinct).2 version, (url_draftOf_iff width distinct).2 url,
      Option.ext fun n => ?_⟩
    rw [size, ← size_draftOf_iff width distinct, Option.getD_eq_iff]
    simp

end Caretaker.Device.Server
