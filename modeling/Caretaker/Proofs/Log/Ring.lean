import Caretaker.Log.Journal
import Mathlib.Data.List.Induction

/-!
Rings of log entries as those see them who use them. Whatever has been asked of a ring, its answers
are read off the entries that have come in since it was collected last, of which it keeps the newest
and forgets the others.
-/

namespace Caretaker

/-- Some values are the end of a list, as many as a number says or all that there are. -/
structure IsNewest {α : Type} (count : Nat) (values part : List α) : Prop where
  suffix : part <:+ values
  length : part.length = min count values.length

theorem isNewest_newest {α : Type} (count : Nat) (values : List α)
    : IsNewest count values (newest count values) :=
  ⟨newest_suffix count values, length_newest count values⟩

namespace Log

-----------------------------------------------------------------------------
-- What is asked of a ring

/-- What can be asked of a ring of log entries. -/
inductive Request where
  | append (level : String) (origin : Option String) (message : String) (uptime : Nat)
  | recent (count : Nat)
  | collect
  | size
  | isEmpty

/-- The answers of a ring of log entries. -/
@[reducible]
def Answer : Request → Type
  | .append .. => Unit
  | .recent _ | .collect => List Entry
  | .size => Nat
  | .isEmpty => Bool

/-- The answer of a ring, and the ring afterwards. -/
def ask (ring : Ring Entry) : (r : Request) → Answer r × Ring Entry
  | .append level origin message uptime => ((), ring.push ⟨uptime, level, origin, message⟩)
  | .recent count => (ring.recent count, ring)
  | .collect => ring.drain
  | .size => (ring.size, ring)
  | .isEmpty => (ring.isEmpty, ring)

/-- A ring that was set up for a number of entries, once all this has been asked of it. -/
def ringAfter (capacity : Nat) (past : List Request) : Ring Entry :=
  past.foldl (fun ring r => (ask ring r).2) (emptyRing capacity)

namespace Request

def entry? : Request → Option Entry
  | .append level origin message uptime => some ⟨uptime, level, origin, message⟩
  | _ => none

def isCollect : Request → Bool
  | .collect => true
  | _ => false

end Request

/-- The entries that have come in since the ring was collected last. -/
def sinceCollected (past : List Request) : List Entry :=
  (past.reverse.takeWhile fun r => !r.isCollect).reverse.filterMap Request.entry?

variable {past : List Request}

theorem ringAfter_concat (capacity : Nat) (past : List Request) (r : Request)
    : ringAfter capacity (past ++ [r]) = (ask (ringAfter capacity past) r).2 := by
  rw [ringAfter, List.foldl_append, List.foldl_cons, List.foldl_nil, ringAfter]

theorem sinceCollected_concat (past : List Request) (r : Request)
    : sinceCollected (past ++ [r])
      = if r.isCollect then [] else sinceCollected past ++ r.entry?.toList := by
  rw [sinceCollected, List.reverse_append, List.reverse_singleton, List.singleton_append,
    List.takeWhile_cons]
  cases r <;> simp [Request.isCollect, Request.entry?, sinceCollected]

/-- Every entry has come in just as it is. -/
theorem append_mem_of_mem_sinceCollected {entry : Entry} (member : entry ∈ sinceCollected past)
    : .append entry.level entry.origin entry.message entry.uptime ∈ past := by
  obtain ⟨r, asked, isEntry⟩ := List.mem_filterMap.1 member
  have behind := (List.takeWhile_sublist _).mem (List.mem_reverse.1 asked)
  cases r with
  | append level origin message uptime =>
    cases isEntry
    exact List.mem_reverse.1 behind
  | recent | collect | size | isEmpty => cases isEntry

-----------------------------------------------------------------------------
-- What a ring keeps

/-- A ring with room for a number of entries keeps the newest of some. -/
structure Keeps (room : Nat) (entries : List Entry) (ring : Ring Entry) : Prop where
  capacity : ring.capacity = room
  values : ring.values = newest room entries

/-- Whatever is asked of it, a ring keeps the newest entries. By cases over what is asked. -/
theorem Keeps.ask {room : Nat} {entries : List Entry} {ring : Ring Entry}
    (keeps : Keeps room entries ring) (r : Request)
    : Keeps room (if r.isCollect then [] else entries ++ r.entry?.toList) (ask ring r).2 := by
  cases r with
  | append level origin message uptime =>
    refine ⟨keeps.capacity, ?_⟩
    rw [Log.ask, Ring.values_push, keeps.capacity, keeps.values, newest_append_newest]
    rfl
  | collect => exact ⟨keeps.capacity, (newest_nil room).symm⟩
  | recent | size | isEmpty =>
    rw [← List.append_nil entries] at keeps
    exact keeps

/-- A ring keeps the newest entries since it was collected last, by induction over what has been
asked of it.
-/
theorem keeps_ringAfter (capacity : Nat) (past : List Request)
    : Keeps (max capacity 1) (sinceCollected past) (ringAfter capacity past) := by
  induction past using List.reverseRecOn with
  | nil => exact ⟨rfl, (newest_nil _).symm⟩
  | append_singleton past r ih =>
    rw [ringAfter_concat, sinceCollected_concat]
    exact ih.ask r

theorem Keeps.size_eq {room : Nat} {entries : List Entry} {ring : Ring Entry}
    (keeps : Keeps room entries ring)
    : ring.size = min room entries.length := by
  rw [Ring.size, keeps.values, length_newest]

/-- Whatever has been asked of a ring, its answers are read off the entries that have come in since
it was collected last. It shows and hands out the newest of them, as far as there is room, each as
it has come in, and tells how many there are. Only what comes in and a collection change the ring,
and after a collection it is as new. There is room for one entry at least.
-/
theorem ring_answers_by_entries (capacity : Nat) (past : List Request)
    : let ring := ringAfter capacity past
      let entries := sinceCollected past
      let room := max capacity 1
      (∀ count, IsNewest (min count room) entries (ask ring (.recent count)).1
        ∧ (ask ring (.recent count)).2 = ring)
      ∧ (IsNewest room entries (ask ring .collect).1
        ∧ (ask ring .collect).2 = emptyRing capacity)
      ∧ ask ring .size = (min room entries.length, ring)
      ∧ (((ask ring .isEmpty).1 = true ↔ min room entries.length = 0)
        ∧ (ask ring .isEmpty).2 = ring)
      ∧ ∀ entry ∈ entries,
        .append entry.level entry.origin entry.message entry.uptime ∈ past := by
  intro ring entries room
  have keeps : Keeps room entries ring := keeps_ringAfter capacity past
  have size := keeps.size_eq
  refine ⟨?recent, ?collect, ?size, ?isEmpty, fun _ => append_mem_of_mem_sinceCollected⟩
  case recent =>
    intro count
    refine ⟨?_, rfl⟩
    rw [ask, Ring.recent, keeps.values, newest_newest]
    exact isNewest_newest ..
  case collect =>
    constructor
    · rw [ask, Ring.drain, keeps.values]
      exact isNewest_newest ..
    · rw [ask, Ring.drain, Ring.clear, keeps.capacity]
      rfl
  case size => rw [ask, size]
  case isEmpty =>
    refine ⟨?_, rfl⟩
    rw [← size]
    exact beq_iff_eq

/-- A ring that was set up for no entry keeps the last one. -/
example
    : (ask (ringAfter 0 [.append "INFO" none "one" 1, .append "WARN" none "two" 2]) (.recent 5)).1
      = [⟨2, "WARN", none, "two"⟩] := by
  decide

end Log

end Caretaker
