import Caretaker.Report

/-!
Releases of the firmware, and how a look for one ends. A look has two halves: asking whether
there is a release to install, and installing it.
-/

namespace Caretaker

/-- A release that is newer than the running firmware. -/
structure Release where
  version : String
  url : String
  /-- The length of its image in bytes, if it was announced. On a device it is a word. -/
  size : Option Nat
deriving Repr, DecidableEq

/-- The answer to the question for a release. -/
inductive Finding where
  | nothing
  | found (release : Release)
  | failed (code : Int32)
deriving Repr, DecidableEq

/-- How an installation ended. -/
inductive Installation where
  /-- The image will run after a restart. -/
  | staged
  /-- Left for a later look. -/
  | deferred
  | failed (code : Int32)
deriving Repr, DecidableEq

/-- How a look for a release ended without a restart. -/
inductive Outcome where
  | upToDate
  | available
  | failed (code : Int32)
deriving Repr, DecidableEq

namespace Outcome

/-- The code of a failure that came with a code of success. -/
def genericFailure : Int32 := -1

/-- The outcome that a return code stands for: zero, another success, or a failure. -/
def ofReturnCode (code : Int32) : Outcome :=
  if code = 0 then .upToDate
  else if code < 0 then .failed code
  else .available

/-- The return code that stands for an outcome. -/
def returnCode : Outcome → Int32
  | .upToDate => 0
  | .available => 1
  | .failed code => code

/-- Whether the server of releases was reached and answered. -/
def reachedServer : Outcome → Bool
  | .failed _ => false
  | _ => true

/-- The code under which a failure is recorded. It is negative whatever was reported, so no
failure looks like a success.
-/
def failureCode (code : Int32) : Int32 :=
  if code < 0 then code else genericFailure

/-- A failure with the code that was reported, and a line in the log if that was no code of a
failure.
-/
def fail {S : Signature} [Reports S] (code : Int32) : Program S Outcome := do
  if 0 ≤ code then
    say .warn "update" ("Update failure reported with non-negative code " ++ toString code.toInt)
  return .failed (failureCode code)

end Outcome

end Caretaker
