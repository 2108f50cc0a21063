import Caretaker.Report

/-!
Attempts to install a release come one at a time. A start while one is open and an end while none
is are refused, and whatever is refused changes nothing.
-/

namespace Caretaker.Attempt

/-- What was refused. -/
inductive Misuse where
  | alreadyOpen
  | notOpen
deriving Repr, DecidableEq

/-- The text that reports what was refused. -/
def Misuse.message : Misuse → String
  | .alreadyOpen => "OTA metrics session already open"
  | .notOpen => "no OTA metrics session open"

/-- The attempt that is open, if there is one. -/
structure Tracker where
  startedAt : Option Stamp := none
deriving Repr, DecidableEq

namespace Tracker

/-- Whether an attempt is open. -/
def isOpen (t : Tracker) : Bool :=
  t.startedAt.isSome

/-- An attempt begins. -/
def start (t : Tracker) (now : Stamp) : Except Misuse Tracker :=
  match t.startedAt with
  | some _ => .error .alreadyOpen
  | none => .ok ⟨some now⟩

/-- The open attempt ends. -/
def finish (t : Tracker) (code : Int32) (now : Stamp) : Except Misuse (Record × Tracker) :=
  match t.startedAt with
  | some startedAt => .ok (.between startedAt now code, ⟨none⟩)
  | none => .error .notOpen

end Tracker

/-- The origin of the log lines about attempts. -/
def origin : String := "session"

section

variable {S : Signature} [Reports S]

/-- An attempt begins, with a line in the log. -/
def begin (t : Tracker) (now : Stamp) : Program S (Except Misuse Tracker) := do
  match t.start now with
  | .ok opened =>
    say .debug origin ("OTA session started at " ++ toString now.toNat ++ "ms")
    return .ok opened
  | .error misuse =>
    say .error origin ("OTA session start ignored: " ++ misuse.message)
    return .error misuse

/-- The open attempt ends, with a line in the log. -/
def conclude (t : Tracker) (code : Int32) (now : Stamp)
    : Program S (Except Misuse (Record × Tracker)) := do
  match t.finish code now with
  | .ok (record, closed) =>
    say .info origin ("OTA session ended: result=" ++ toString record.code.toInt ++ " duration="
      ++ toString record.duration.toNat ++ "ms")
    return .ok (record, closed)
  | .error misuse =>
    say .error origin ("OTA session end(" ++ toString code.toInt ++ ") ignored: " ++ misuse.message)
    return .error misuse

end

end Caretaker.Attempt
