/-!
Rings keep the newest values of a history, up to a capacity. What a ring holds after any pushes
is the end of that history, oldest value first.
-/

namespace Caretaker

/-- The last `count` values of a list, all of them if it is not longer. -/
def newest {α : Type} (count : Nat) (values : List α) : List α :=
  values.drop (values.length - count)

theorem length_newest {α : Type} (count : Nat) (values : List α)
    : (newest count values).length = min count values.length := by
  simp only [newest, List.length_drop]
  omega

theorem newest_of_length_le {α : Type} {count : Nat} {values : List α}
    (fits : values.length ≤ count)
    : newest count values = values := by
  rw [newest, Nat.sub_eq_zero_of_le fits, List.drop_zero]

@[simp]
theorem newest_zero {α : Type} (values : List α) : newest 0 values = [] :=
  List.drop_length

@[simp]
theorem newest_nil {α : Type} (count : Nat) : newest count ([] : List α) = [] :=
  List.drop_nil

/-- The newest values are the end of a list. -/
theorem newest_suffix {α : Type} (count : Nat) (values : List α) : newest count values <:+ values :=
  List.drop_suffix ..

/-- The newest among the newest values. -/
theorem newest_newest {α : Type} (count room : Nat) (values : List α)
    : newest count (newest room values) = newest (min count room) values := by
  have dropped : values.length - room + (values.length - (values.length - room) - count)
      = values.length - min count room := by
    omega
  rw [newest, newest, List.length_drop, List.drop_drop, dropped, newest]

theorem newest_concat {α : Type} (count : Nat) (values : List α) (value : α)
    : newest (count + 1) (values ++ [value]) = newest count values ++ [value] := by
  rw [newest, List.length_append, List.length_singleton, Nat.add_sub_add_right,
    List.drop_append_of_le_length (Nat.sub_le ..), newest]

/-- Values with enough others behind them are not among the newest ones. -/
theorem newest_append_of_le {α : Type} {count : Nat} {before values : List α}
    (enough : count ≤ values.length)
    : newest count (before ++ values) = newest count values := by
  have length : before.length + values.length - count
      = before.length + (values.length - count) := by
    omega
  rw [newest, newest, List.length_append, length, ← List.drop_drop, List.drop_left]

/-- Of what comes behind the newest values, the newest ones are those of the whole history. -/
theorem newest_append_newest {α : Type} (count : Nat) (values more : List α)
    : newest count (newest count values ++ more) = newest count (values ++ more) := by
  by_cases fits : values.length ≤ count
  · rw [newest_of_length_le fits]
  · have enough : count ≤ (newest count values ++ more).length := by
      rw [List.length_append, length_newest]
      omega
    have whole : values.take (values.length - count) ++ newest count values = values :=
      List.take_append_drop _ values
    conv => rhs; rw [← whole, List.append_assoc, newest_append_of_le enough]

/-- A value with few others behind it is among the newest ones. -/
theorem mem_newest {α : Type} {count : Nat} {value : α} {before behind : List α}
    (few : behind.length < count)
    : value ∈ newest count (before ++ value :: behind) := by
  have early : (before ++ value :: behind).length - count ≤ before.length := by
    rw [List.length_append, List.length_cons]
    omega
  rw [newest, List.drop_append_of_le_length early]
  exact List.mem_append_right _ (List.mem_cons_self ..)

/-- A bounded history. -/
structure Ring (α : Type) where
  capacity : Nat
  /-- The values held, oldest first. -/
  values : List α
  length_le : values.length ≤ capacity
deriving DecidableEq

namespace Ring

variable {α : Type}

/-- An empty ring for a number of values. -/
def empty (capacity : Nat) : Ring α :=
  ⟨capacity, [], Nat.zero_le _⟩

/-- A value goes in at the end. The oldest value makes room for it if the ring is full. -/
def push (ring : Ring α) (value : α) : Ring α where
  capacity := ring.capacity
  values := newest ring.capacity (ring.values ++ [value])
  length_le := by
    rw [length_newest]
    exact Nat.min_le_left _ _

/-- Values go in one after the other. -/
def pushAll (ring : Ring α) (values : List α) : Ring α :=
  values.foldl push ring

/-- The same ring without its values. -/
def clear (ring : Ring α) : Ring α :=
  empty ring.capacity

/-- The number of values held. -/
def size (ring : Ring α) : Nat :=
  ring.values.length

/-- Whether no value is held. -/
def isEmpty (ring : Ring α) : Bool :=
  ring.size == 0

/-- The newest values, no more than `count`. -/
def recent (ring : Ring α) (count : Nat) : List α :=
  newest count ring.values

/-- Take all values out. -/
def drain (ring : Ring α) : List α × Ring α :=
  (ring.values, ring.clear)

@[simp]
theorem values_empty (capacity : Nat) : (empty capacity : Ring α).values = [] := rfl

@[simp]
theorem capacity_empty (capacity : Nat) : (empty capacity : Ring α).capacity = capacity := rfl

@[simp]
theorem capacity_push (ring : Ring α) (value : α) : (ring.push value).capacity = ring.capacity :=
  rfl

@[simp]
theorem values_push (ring : Ring α) (value : α)
    : (ring.push value).values = newest ring.capacity (ring.values ++ [value]) := rfl

/-- Where a value goes in: behind all others while there is room. If there is none, the oldest one
leaves.
-/
theorem values_push_eq_append {ring : Ring α} (room : 0 < ring.capacity) (value : α)
    : (ring.push value).values
      = (if ring.values.length < ring.capacity then ring.values else ring.values.tail)
        ++ [value] := by
  have one : ring.capacity = ring.capacity - 1 + 1 := by
    omega
  rw [values_push, one, newest_concat, ← one]
  by_cases full : ring.values.length < ring.capacity
  · rw [if_pos full, newest_of_length_le (by omega)]
  · have oldest : ring.values.length - (ring.capacity - 1) = 1 := by
      have fits := ring.length_le
      omega
    rw [if_neg full, newest, oldest, List.drop_one]

/-- The newest values that are left once one more has come in and some others will: those that were
left with one more of these, and the one that has come in if there is room for it.
-/
theorem newest_values_push (ring : Ring α) (value : α) (others : Nat)
    : newest (ring.capacity - others) (ring.push value).values
      = newest (ring.capacity - (others + 1)) ring.values
        ++ if others < ring.capacity then [value] else [] := by
  rw [values_push, newest_newest, Nat.min_eq_left (Nat.sub_le ..)]
  by_cases room : others < ring.capacity
  · have one : ring.capacity - others = ring.capacity - (others + 1) + 1 := by
      omega
    rw [if_pos room, one, newest_concat]
  · have none : ring.capacity - others = 0 := by
      omega
    have fewer : ring.capacity - (others + 1) = 0 := by
      omega
    rw [if_neg room, none, fewer, newest_zero, newest_zero, List.append_nil]

/-- What went in last is the newest value. -/
theorem getLast?_push {ring : Ring α} (room : 0 < ring.capacity) (value : α)
    : (ring.push value).values.getLast? = some value := by
  rw [values_push_eq_append room, List.getLast?_concat]

@[simp]
theorem pushAll_nil (ring : Ring α) : ring.pushAll [] = ring := rfl

theorem pushAll_append (ring : Ring α) (values more : List α)
    : ring.pushAll (values ++ more) = (ring.pushAll values).pushAll more :=
  List.foldl_append

/-- Its capacity stays the same, by induction over what goes in. -/
@[simp]
theorem capacity_pushAll (ring : Ring α) (values : List α)
    : (ring.pushAll values).capacity = ring.capacity := by
  induction values generalizing ring with
  | nil => rfl
  | cons value rest ih => exact ih (ring.push value)

/-- A ring holds the newest values of its history, by induction over what goes in. -/
theorem values_pushAll (ring : Ring α) (values : List α)
    : (ring.pushAll values).values = newest ring.capacity (ring.values ++ values) := by
  induction values generalizing ring with
  | nil => rw [List.append_nil, newest_of_length_le ring.length_le, pushAll_nil]
  | cons value rest ih =>
    have pushed : ring.pushAll (value :: rest) = (ring.push value).pushAll rest := rfl
    rw [pushed, ih, capacity_push, values_push, newest_append_newest, List.append_assoc,
      List.singleton_append]

@[simp]
theorem capacity_clear (ring : Ring α) : ring.clear.capacity = ring.capacity := rfl

@[simp]
theorem values_clear (ring : Ring α) : ring.clear.values = [] := rfl

end Ring

end Caretaker
