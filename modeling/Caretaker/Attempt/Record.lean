import Caretaker.Json.Value
import Caretaker.Stamp

/-!
The record of one attempt to install a release: when it began and ended, how long it took and
how it went.
-/

namespace Caretaker.Attempt

/-- The code of an attempt that went well. -/
def succeeded : Int32 := 0

/-- The code of an attempt that was put off. -/
def deferred : Int32 := 1

/-- An attempt that has ended. -/
structure Record where
  startedAt : Stamp
  endedAt : Stamp
  duration : UInt32
  code : Int32
deriving Repr, DecidableEq

namespace Record

/-- The record of an attempt between two readings of the clock. -/
def between (startedAt endedAt : Stamp) (code : Int32) : Record :=
  ⟨startedAt, endedAt, Stamp.since startedAt endedAt, code⟩

/-- Whether the attempt went well. -/
def isSuccess (r : Record) : Bool :=
  r.code = succeeded

/-- A record as a value to be written. -/
def toValue (r : Record) : Json.Value :=
  .record [
    ("started_at_ms", .whole r.startedAt.toNat),
    ("ended_at_ms", .whole r.endedAt.toNat),
    ("duration_ms", .whole r.duration.toNat),
    ("result_code", .whole r.code.toInt)]

/-- The text of a record. -/
def toJson (r : Record) : String :=
  r.toValue.render

end Record

end Caretaker.Attempt
