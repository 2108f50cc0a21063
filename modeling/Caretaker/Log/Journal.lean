import Caretaker.Log.Record
import Caretaker.Ring

/-!
The journal keeps the newest records in memory, so that they can be collected when something has
gone wrong.
-/

namespace Caretaker.Log

/-- A record that is kept. -/
structure Entry where
  /-- Milliseconds since boot. -/
  uptime : Nat
  level : String
  origin : Option String
  message : String
deriving Repr, DecidableEq

/-- The entry of a record. -/
def Record.entry (record : Record) (uptime : Nat) : Entry :=
  ⟨uptime, record.level.name, some record.origin, record.message⟩

/-- The number of records kept unless another one is asked for. -/
def defaultCapacity : Nat := 64

/-- An empty ring of entries, with room for one at least. -/
def emptyRing (capacity : Nat) : Ring Entry :=
  .empty (max capacity 1)

/-- The records kept so far, and which ones are kept. -/
structure Journal where
  threshold : Threshold
  ring : Ring Entry
deriving DecidableEq

namespace Journal

/-- A journal without entries. -/
def empty (threshold : Threshold) : Journal :=
  ⟨threshold, emptyRing defaultCapacity⟩

/-- A record is kept if its level is. -/
def note (journal : Journal) (uptime : Nat) (record : Record) : Journal :=
  if journal.threshold.admits record.level then
    { journal with ring := journal.ring.push (record.entry uptime) }
  else
    journal

end Journal

end Caretaker.Log
