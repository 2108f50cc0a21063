import Caretaker.Attempt.Record
import Caretaker.Log.Record
import Caretaker.Program

/-!
Reports are what a caretaker tells about its work: log records, counts, attempts, notable events
and the wish to keep the log. Saying something always works. The rest goes to a store that may
fail, and no caretaker does anything else because of that.
-/

namespace Caretaker

/-- Why a request failed, as far as the one who asked can tell. -/
structure Fault where
  text : String
deriving Repr, DecidableEq

/-- What is counted. -/
inductive Counter where
  /-- Looks for a release that reached the server. -/
  | successes
  /-- Looks for a release that failed. -/
  | failures
  /-- Rounds of the cycle, with or without a look. -/
  | rounds
deriving Repr, DecidableEq

/-- The name under which a counter is exported. -/
def Counter.name : Counter → String
  | .successes => "sync_successful"
  | .failures => "sync_failure"
  | .rounds => "ota_task_num_schedules"

/-- A notable event. -/
structure Notice where
  reason : String
  message : String
deriving Repr, DecidableEq

namespace Notice

/-- A look for a release or an installation failed with this code. -/
def failure (code : Int32) : Notice :=
  ⟨"ota_install_failure", "error code=" ++ toString code.toInt⟩

/-- A task has been armed for too long. -/
def stuck (name : String) (elapsed : UInt32) : Notice :=
  ⟨"task_watchdog", "task=" ++ name ++ " elapsed=" ++ toString elapsed.toNat ++ "ms"⟩

end Notice

/-- One thing that is told. -/
inductive Report where
  | say (record : Log.Record)
  | count (counter : Counter)
  | attempt (record : Attempt.Record)
  | notice (event : Notice)
  /-- Set the log of the last time aside, so that it gets uploaded. -/
  | keepLog
deriving Repr, DecidableEq

/-- The answer to a report. -/
@[reducible]
def Report.Answer : Report → Type
  | .say _ => Unit
  | _ => Except Fault Unit

/-- Surroundings that take reports. -/
class Reports (S : Signature) where
  report : (r : Report) → Program S r.Answer

/-- Surroundings that have a clock. -/
class Clock (S : Signature) where
  now : Program S Stamp

export Clock (now)

/-- Surroundings that take reports and nothing else. -/
abbrev Telling : Signature :=
  ⟨Report, Report.Answer⟩

instance : Reports Telling where
  report r := Program.request (S := Telling) r

section

variable {S : Signature} [Reports S]

/-- Say something at a level, under the name of the place it comes from. -/
def say (level : Log.Level) (origin message : String) : Program S Unit :=
  Reports.report (.say ⟨level, some origin, message⟩)

/-- Count something. -/
def count (counter : Counter) : Program S (Except Fault Unit) :=
  Reports.report (.count counter)

/-- Hand in the record of an attempt. -/
def recordAttempt (record : Attempt.Record) : Program S (Except Fault Unit) :=
  Reports.report (.attempt record)

/-- Tell about a notable event. -/
def notify (event : Notice) : Program S (Except Fault Unit) :=
  Reports.report (.notice event)

/-- Ask for the log of the last time to be set aside. -/
def keepLog : Program S (Except Fault Unit) :=
  Reports.report .keepLog

/-- Go on after a best-effort request, with a line in the log if it failed. -/
def tolerate (level : Log.Level) (origin failure : String) (answer : Except Fault Unit)
    : Program S Unit :=
  match answer with
  | .ok _ => pure ()
  | .error fault => say level origin (failure ++ ": " ++ fault.text)

end

end Caretaker
