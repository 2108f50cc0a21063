import Caretaker.Proofs.Json.Rendering

/-!
Reading back whatever is written. A reader that knows nothing about what to expect gets every value
from the one text in which it is written, so no two values are written alike.
-/

namespace Caretaker.Json

open Text

variable {rest : List UInt8}

-----------------------------------------------------------------------------
-- A reader of any value

namespace Reader

/-- A whole number of any size, whose sign has been passed over. -/
def wholeNumber : Reader Nat := do
  match ← digits with
  | [] => throw .malformed
  | ds =>
    if ds.head? = some (code '0') && 1 < ds.length then
      throw .malformed
    match ← peek with
    | some b =>
      if b = code '.' || b = code 'e' || b = code 'E' then
        throw (.unfit "not a whole number")
    | none => pure ()
    return digitsValue ds

mutual

/-- Any value but `null` and numbers that are not whole. Every round takes at least one byte. -/
def valueIn : Nat → Reader Value
  | 0 => throw .truncated
  | rounds + 1 => do
    let b ← start
    if b = code 't' then
      word "true".toList
      return .flag true
    else if b = code 'f' then
      word "false".toList
      return .flag false
    else if b = code '-' then
      advance
      return .whole (-(← wholeNumber))
    else if isDigit b then
      return .whole (← wholeNumber)
    else if b = code '"' then
      advance
      return .text (← textBody)
    else if b = code '[' then
      advance
      if ← closesAtOnce (code ']') then return .list [] else return .list (← itemsIn rounds)
    else if b = code '{' then
      advance
      if ← closesAtOnce (code '}') then return .record [] else return .record (← membersIn rounds)
    else
      throw (.unfit "neither a flag, a whole number, a text, a list nor a record")

/-- The items of a list up to its closing bracket. -/
def itemsIn : Nat → Reader (List Value)
  | 0 => throw .truncated
  | rounds + 1 => do
    let item ← valueIn rounds
    if ← another (code ']') then return item :: (← itemsIn rounds) else return [item]

/-- The members of a record up to its closing brace. -/
def membersIn : Nat → Reader (List (String × Value))
  | 0 => throw .truncated
  | rounds + 1 => do
    let name ← textAs "a name"
    colon
    let value ← valueIn rounds
    if ← another (code '}') then
      return (name, value) :: (← membersIn rounds)
    else
      return [(name, value)]

end

/-- Any value. -/
def value : Reader Value := do
  valueIn (2 * (← get).length)

end Reader

/-- The value that a text holds. -/
def Value.parse (text : List UInt8) : Except Error Value :=
  Reader.decode Reader.value text

-----------------------------------------------------------------------------
-- Single values

open Reader

/-- A number is read in full if nothing carries it on. -/
theorem Decimal.wholeNumber_reads {n : Nat} {ds : List UInt8} (decimal : Decimal n ds)
    (ends : EndsNumber rest)
    : Reads wholeNumber (ds ++ rest) n rest := by
  obtain ⟨isWhole, rfl⟩ := decimal
  have digits := isWhole.1
  have unpadded := (Number.not_padded_iff digits).2 isWhole
  rw [wholeNumber, Reads.digits_bind_iff, digits.takeWhile ends.noDigit,
    digits.dropWhile ends.noDigit]
  obtain ⟨d, tail, rfl, -⟩ := digits.head
  dsimp only
  rw [if_neg unpadded, Reads.peek_bind_iff]
  cases next : rest.head? with
  | none => exact Reads.pure_iff.2 ⟨rfl, rfl⟩
  | some b =>
    obtain ⟨-, noPoint, small, capital⟩ := ends b next
    have goesOn : ¬ (decide (b = code '.') || decide (b = code 'e') || decide (b = code 'E')) = true
        := by
      simpa using ⟨⟨noPoint, small⟩, capital⟩
    dsimp only
    rw [if_neg goesOn]
    exact Reads.pure_iff.2 ⟨rfl, rfl⟩

/-- A value is read back from the front of a text, wherever enough rounds are left. -/
def Value.ReadsBack (value : Value) : Prop :=
  ∀ rounds rest, 2 * (toBytes value.render).length ≤ rounds → Apart (toBytes value.render) rest
    → Reads (valueIn rounds) (toBytes value.render ++ rest) value rest

theorem start_cons_bind_iff {α : Type} {b : UInt8} {tail : List UInt8} {f : UInt8 → Reader α}
    {a : α} (solid : isBlank b = false)
    : Reads (start >>= f) (b :: tail) a rest ↔ Reads (f b) (b :: tail) a rest :=
  Reads.bind_iff_of (Blank.nil.start_reads solid)

/-! What the first byte of a value comes to. -/

section Kinds

variable {rounds : Nat} {text : List UInt8} {got : Value}

theorem valueIn_minus_iff
    : Reads (valueIn (rounds + 1)) (code '-' :: text) got rest
      ↔ Reads (do return .whole (-(← wholeNumber))) text got rest :=
  start_cons_bind_iff (by decide)

theorem valueIn_quote_iff
    : Reads (valueIn (rounds + 1)) (code '"' :: text) got rest
      ↔ Reads (do return .text (← textBody)) text got rest :=
  start_cons_bind_iff (by decide)

theorem valueIn_bracket_iff
    : Reads (valueIn (rounds + 1)) (code '[' :: text) got rest
      ↔ Reads (do
          if ← closesAtOnce (code ']') then return .list [] else return .list (← itemsIn rounds))
        text got rest :=
  start_cons_bind_iff (by decide)

theorem valueIn_brace_iff
    : Reads (valueIn (rounds + 1)) (code '{' :: text) got rest
      ↔ Reads (do
          if ← closesAtOnce (code '}') then
            return .record []
          else
            return .record (← membersIn rounds))
        text got rest :=
  start_cons_bind_iff (by decide)

theorem valueIn_digit_iff {d : UInt8} (digit : isDigit d = true)
    : Reads (valueIn (rounds + 1)) (d :: text) got rest
      ↔ Reads (do return .whole (← wholeNumber)) (d :: text) got rest := by
  have other {c : UInt8} (none : isDigit c = false) : d ≠ c := ne_of_isDigit digit none
  rw [valueIn, start_cons_bind_iff (solid_of_isDigit digit), if_neg (other (by decide)),
    if_neg (other (by decide)), if_neg (other (by decide)), if_pos digit]

theorem valueIn_flag_reads (b : Bool)
    : Reads (valueIn (rounds + 1)) (toBytes (Value.flag b).render ++ rest) (.flag b) rest := by
  cases b with
  | true =>
    have reads : Reads (word "true".toList) (toBytes "true" ++ rest) () rest := word_reads_iff.2 rfl
    exact (start_cons_bind_iff (by decide)).2 (reads.bind (Reads.pure_iff.2 ⟨rfl, rfl⟩))
  | false =>
    have reads : Reads (word "false".toList) (toBytes "false" ++ rest) () rest :=
      word_reads_iff.2 rfl
    exact (start_cons_bind_iff (by decide)).2 (reads.bind (Reads.pure_iff.2 ⟨rfl, rfl⟩))

end Kinds

/-- A whole number is read back with its sign. -/
theorem valueIn_whole_reads {rounds : Nat} (n : Int) (ends : EndsNumber rest)
    : Reads (valueIn (rounds + 1)) (toBytes (Value.whole n).render ++ rest) (.whole n) rest := by
  rw [Value.render, Int.toString_eq_repr, Int.repr_eq_if]
  split
  case isTrue natural =>
    have decimal := decimal_toString n.toNat
    have reads := decimal.wholeNumber_reads ends
    have isWhole : Value.whole n = .whole n.toNat := by
      rw [Int.toNat_of_nonneg natural]
    obtain ⟨d, tail, spelled, digit⟩ := decimal.head
    rw [show n.toNat.repr = toString n.toNat from rfl, isWhole]
    rw [spelled] at reads ⊢
    exact (valueIn_digit_iff digit).2 (reads.bind (Reads.pure_iff.2 ⟨rfl, rfl⟩))
  case isFalse negative =>
    have reads := (decimal_toString (-n).toNat).wholeNumber_reads ends
    have isWhole : Value.whole n = .whole (-((-n).toNat : Nat)) := by
      rw [Int.toNat_of_nonneg (by omega), Int.neg_neg]
    rw [toBytes_append, isWhole]
    exact valueIn_minus_iff.2 (reads.bind (Reads.pure_iff.2 ⟨rfl, rfl⟩))

theorem valueIn_text_reads {rounds : Nat} (s : String)
    : Reads (valueIn (rounds + 1)) (toBytes (Value.text s).render ++ rest) (.text s) rest := by
  obtain ⟨spelling, quoted, spelled⟩ := spells_quote s
  rw [Value.render, quoted]
  exact valueIn_quote_iff.2 (spelled.textBody_reads.bind (Reads.pure_iff.2 ⟨rfl, rfl⟩))

-----------------------------------------------------------------------------
-- Lists and records

theorem endsNumber_cons {b : UInt8} (other : isDigit b = false ∧ b ≠ code '.' ∧ b ≠ code 'e'
      ∧ b ≠ code 'E')
    : EndsNumber (b :: rest) := by
  intro b' next
  cases next
  exact other

/-- A value is read back in front of a comma or a closing bracket. -/
theorem Value.ReadsBack.before {value : Value} {rounds : Nat} {b : UInt8}
    (readsBack : value.ReadsBack) (enough : 2 * (toBytes value.render).length ≤ rounds)
    (other : isDigit b = false ∧ b ≠ code '.' ∧ b ≠ code 'e' ∧ b ≠ code 'E')
    : Reads (valueIn rounds) (toBytes value.render ++ b :: rest) value (b :: rest) :=
  readsBack rounds _ enough fun _ => endsNumber_cons other

theorem toBytes_renderItems (item next : Value) (items : List Value)
    : toBytes (Value.renderItems (item :: next :: items))
      = toBytes item.render ++ code ',' :: toBytes (Value.renderItems (next :: items)) := by
  simp [Value.renderItems]
  rfl

theorem toBytes_renderMembers_singleton (name : String) (value : Value)
    : toBytes (Value.renderMembers [(name, value)])
      = toBytes (quote name) ++ code ':' :: toBytes value.render := by
  simp [Value.renderMembers]
  rfl

theorem toBytes_renderMembers (name : String) (value : Value) (next : String × Value)
    (members : List (String × Value))
    : toBytes (Value.renderMembers ((name, value) :: next :: members))
      = toBytes (quote name) ++ code ':' :: (toBytes value.render
        ++ code ',' :: toBytes (Value.renderMembers (next :: members))) := by
  simp [Value.renderMembers]
  rfl

/-- Items are read back one after the other, by induction over those behind the first. -/
theorem itemsIn_reads {item : Value} {items : List Value} {rounds : Nat}
    (readBack : ∀ v ∈ item :: items, v.ReadsBack)
    (enough : 2 * (toBytes (Value.renderItems (item :: items))).length + 2 ≤ rounds)
    : Reads (itemsIn rounds) (toBytes (Value.renderItems (item :: items)) ++ code ']' :: rest)
        (item :: items) rest := by
  obtain ⟨rounds, rfl⟩ : ∃ r, rounds = r + 1 := ⟨rounds - 1, by omega⟩
  induction items generalizing item rounds with
  | nil =>
    rw [Value.renderItems] at enough ⊢
    have closes : Reads (another (code ']')) (code ']' :: rest) false rest :=
      another_closing .nil (by decide) (by decide)
    have first : Reads (valueIn rounds) (toBytes item.render ++ code ']' :: rest) item _ :=
      (readBack item (by simp)).before (by omega) (by decide)
    exact first.bind (closes.bind (Reads.pure_iff.2 ⟨rfl, rfl⟩))
  | cons next items ih =>
    rw [toBytes_renderItems] at enough ⊢
    rw [List.length_append, List.length_cons] at enough
    rw [List.append_assoc, List.cons_append]
    have first tail
        : Reads (valueIn rounds) (toBytes item.render ++ code ',' :: tail) item
            (code ',' :: tail) :=
      (readBack item (by simp)).before (by omega) (by decide)
    have goesOn tail : Reads (another (code ']')) (code ',' :: tail) true tail := another_comma .nil
    obtain ⟨rounds, rfl⟩ : ∃ r, rounds = r + 1 := ⟨rounds - 1, by omega⟩
    have others := ih (fun v member => readBack v (.tail _ member)) rounds (by omega)
    exact (first _).bind ((goesOn _).bind (others.bind (Reads.pure_iff.2 ⟨rfl, rfl⟩)))

theorem textAs_reads {expected : String} (s : String)
    : Reads (textAs expected) (toBytes (quote s) ++ rest) s rest := by
  obtain ⟨spelling, quoted, spelled⟩ := spells_quote s
  rw [quoted]
  refine (start_cons_bind_iff (by decide)).2 ?_
  rw [if_pos rfl, Reads.advance_bind_iff]
  exact spelled.textBody_reads

/-- Members are read back one after the other, by induction over those behind the first. -/
theorem membersIn_reads {member : String × Value} {members : List (String × Value)} {rounds : Nat}
    (readBack : ∀ m ∈ member :: members, m.2.ReadsBack)
    (enough : 2 * (toBytes (Value.renderMembers (member :: members))).length + 2 ≤ rounds)
    : Reads (membersIn rounds)
        (toBytes (Value.renderMembers (member :: members)) ++ code '}' :: rest)
        (member :: members) rest := by
  obtain ⟨rounds, rfl⟩ : ∃ r, rounds = r + 1 := ⟨rounds - 1, by omega⟩
  obtain ⟨name, value⟩ := member
  induction members generalizing name value rounds with
  | nil =>
    rw [toBytes_renderMembers_singleton, List.length_append, List.length_cons] at enough
    rw [toBytes_renderMembers_singleton, List.append_assoc, List.cons_append]
    have colon tail : Reads colon (code ':' :: tail) () tail := Blank.nil.colon_reads
    have valued : Reads (valueIn rounds) (toBytes value.render ++ code '}' :: rest) value _ :=
      (readBack (name, value) (by simp)).before (by dsimp only; omega) (by decide)
    have closes : Reads (another (code '}')) (code '}' :: rest) false rest :=
      another_closing .nil (by decide) (by decide)
    exact (textAs_reads name).bind ((colon _).bind (valued.bind
      (closes.bind (Reads.pure_iff.2 ⟨rfl, rfl⟩))))
  | cons next members ih =>
    rw [toBytes_renderMembers] at enough ⊢
    simp only [List.length_append, List.length_cons] at enough
    simp only [List.append_assoc, List.cons_append]
    have colon tail : Reads colon (code ':' :: tail) () tail := Blank.nil.colon_reads
    have valued tail
        : Reads (valueIn rounds) (toBytes value.render ++ code ',' :: tail) value
            (code ',' :: tail) :=
      (readBack (name, value) (by simp)).before (by dsimp only; omega) (by decide)
    have goesOn tail : Reads (another (code '}')) (code ',' :: tail) true tail := another_comma .nil
    obtain ⟨rounds, rfl⟩ : ∃ r, rounds = r + 1 := ⟨rounds - 1, by omega⟩
    obtain ⟨nextName, nextValue⟩ := next
    have others := ih rounds nextName nextValue (fun m member => readBack m (.tail _ member))
      (by omega)
    exact (textAs_reads name).bind ((colon _).bind ((valued _).bind
      ((goesOn _).bind (others.bind (Reads.pure_iff.2 ⟨rfl, rfl⟩)))))

/-- A list with an item in it is not closed at once. -/
theorem closesAtOnce_items {item : Value} {items : List Value}
    : Reads (closesAtOnce (code ']')) (toBytes (Value.renderItems (item :: items)) ++ rest) false
        (toBytes (Value.renderItems (item :: items)) ++ rest) := by
  obtain ⟨b, tail, first, solid, other⟩ := (isValue_render item).head
  obtain ⟨more, begins⟩
      : ∃ more, toBytes (Value.renderItems (item :: items)) = b :: tail ++ more := by
    rw [← first]
    cases items with
    | nil => exact ⟨[], (List.append_nil _).symm⟩
    | cons next items => exact ⟨_, toBytes_renderItems item next items⟩
  rw [begins]
  exact closesAtOnce_other .nil solid other

/-- A record with a member in it is not closed at once. -/
theorem closesAtOnce_members {member : String × Value} {members : List (String × Value)}
    : Reads (closesAtOnce (code '}')) (toBytes (Value.renderMembers (member :: members)) ++ rest)
        false (toBytes (Value.renderMembers (member :: members)) ++ rest) := by
  obtain ⟨name, value⟩ := member
  obtain ⟨spelling, quoted, -⟩ := spells_quote name
  obtain ⟨more, begins⟩
      : ∃ more, toBytes (Value.renderMembers ((name, value) :: members)) = code '"' :: more := by
    cases members with
    | nil =>
      rw [toBytes_renderMembers_singleton, quoted]
      exact ⟨_, rfl⟩
    | cons next members =>
      rw [toBytes_renderMembers, quoted]
      exact ⟨_, rfl⟩
  rw [begins]
  exact closesAtOnce_other .nil (by decide) (by decide)

/-- A list is read back if its items are. -/
theorem Value.readsBack_list {items : List Value} (readBack : ∀ v ∈ items, v.ReadsBack)
    : (Value.list items).ReadsBack := by
  intro rounds rest enough apart
  have opening : toBytes "[" = [code '['] := rfl
  have closing : toBytes "]" = [code ']'] := rfl
  rw [render, toBytes_append, toBytes_append, opening, closing] at enough ⊢
  simp only [List.length_append, List.length_cons, List.length_nil, List.append_assoc,
    List.singleton_append] at enough ⊢
  obtain ⟨rounds, rfl⟩ : ∃ r, rounds = r + 1 := ⟨rounds - 1, by omega⟩
  refine valueIn_bracket_iff.2 ?_
  cases items with
  | nil =>
    have closes : Reads (closesAtOnce (code ']')) (code ']' :: rest) true rest :=
      closesAtOnce_closing .nil (by decide)
    exact closes.bind (Reads.pure_iff.2 ⟨rfl, rfl⟩)
  | cons item items =>
    exact closesAtOnce_items.bind
      ((itemsIn_reads readBack (by omega)).bind (Reads.pure_iff.2 ⟨rfl, rfl⟩))

/-- A record is read back if its members are. -/
theorem Value.readsBack_record {members : List (String × Value)}
    (readBack : ∀ m ∈ members, m.2.ReadsBack)
    : (Value.record members).ReadsBack := by
  intro rounds rest enough apart
  have opening : toBytes "\x7b" = [code '{'] := rfl
  have closing : toBytes "\x7d" = [code '}'] := rfl
  rw [render, toBytes_append, toBytes_append, opening, closing] at enough ⊢
  simp only [List.length_append, List.length_cons, List.length_nil, List.append_assoc,
    List.singleton_append] at enough ⊢
  obtain ⟨rounds, rfl⟩ : ∃ r, rounds = r + 1 := ⟨rounds - 1, by omega⟩
  refine valueIn_brace_iff.2 ?_
  cases members with
  | nil =>
    have closes : Reads (closesAtOnce (code '}')) (code '}' :: rest) true rest :=
      closesAtOnce_closing .nil (by decide)
    exact closes.bind (Reads.pure_iff.2 ⟨rfl, rfl⟩)
  | cons member members =>
    exact closesAtOnce_members.bind
      ((membersIn_reads readBack (by omega)).bind (Reads.pure_iff.2 ⟨rfl, rfl⟩))

-----------------------------------------------------------------------------
-- All values

/-- What is written takes some bytes, so there is a round to begin with. -/
theorem Value.exists_round {value : Value} {rounds : Nat}
    (enough : 2 * (toBytes value.render).length ≤ rounds)
    : ∃ r, rounds = r + 1 := by
  obtain ⟨b, tail, first, -⟩ := (isValue_render value).head
  rw [first, List.length_cons] at enough
  exact ⟨rounds - 1, by omega⟩

/-- What is apart from a number does not carry it on. -/
theorem Value.endsNumber_of_apart {n : Int} (apart : Apart (toBytes (whole n).render) rest)
    : EndsNumber rest := by
  refine apart ?_
  rw [render, Int.toString_eq_repr, Int.repr_eq_if]
  split
  case isTrue =>
    obtain ⟨d, tail, spelled, digit⟩ := (decimal_toString n.toNat).head
    rw [show n.toNat.repr = toString n.toNat from rfl, spelled]
    exact ⟨d, rfl, .inr digit⟩
  case isFalse =>
    rw [toBytes_append]
    exact ⟨code '-', rfl, .inl rfl⟩

/-- Every value is read back, by recursion over its structure. -/
theorem Value.readsBack : (value : Value) → value.ReadsBack
  | .flag b => by
    intro rounds rest enough apart
    obtain ⟨rounds, rfl⟩ := exists_round enough
    exact valueIn_flag_reads b
  | .whole n => by
    intro rounds rest enough apart
    obtain ⟨rounds, rfl⟩ := exists_round enough
    exact valueIn_whole_reads n (endsNumber_of_apart apart)
  | .text s => by
    intro rounds rest enough apart
    obtain ⟨rounds, rfl⟩ := exists_round enough
    exact valueIn_text_reads s
  | .list items => readsBack_list fun v _ => readsBack v
  | .record members => readsBack_record fun m _ => readsBack m.2
termination_by value => sizeOf value
decreasing_by
  · have smaller := List.sizeOf_lt_of_mem ‹v ∈ items›
    simp only [Value.list.sizeOf_spec]
    omega
  · have smaller := List.sizeOf_lt_of_mem ‹m ∈ members›
    have part : sizeOf m = 1 + sizeOf m.1 + sizeOf m.2 := rfl
    simp only [Value.record.sizeOf_spec]
    omega

/-- A value is what its text holds. -/
theorem Value.parse_render (value : Value) : parse (toBytes value.render) = .ok value := by
  have apart : Apart (toBytes value.render) [] := fun _ => nofun
  have reads := value.readsBack _ [] (Nat.le_refl _) apart
  rw [List.append_nil] at reads
  exact decode_eq_ok_iff.2 ⟨[], Reads.get_bind_iff.2 reads, .nil⟩

end Caretaker.Json
