import Caretaker.Attempt
import Caretaker.Joining
import Caretaker.Liveness.Tasks
import Caretaker.Policy

/-!
The cycle keeps the firmware current. In each round it joins the network if need be, looks for a
release if it is online, installs what it finds, tells how that went and shows it on the lamp.
Whatever fails is told and tried again in the next round. The only way out is the restart after
an installation.
-/

namespace Caretaker

/-- What the cycle remembers from round to round. -/
structure Cycle where
  attempt : Attempt.Tracker := {}
  /-- The color shown last. -/
  lamp : Lamp := .off
deriving Repr, DecidableEq

namespace Cycle

/-- What a cycle is set up with. -/
structure Plan where
  policy : Policy
  /-- Whether there is a network that could be joined. -/
  hasNetwork : Bool
deriving Repr, DecidableEq

/-- How a round ended. -/
inductive Result where
  | offline
  | checked (outcome : Outcome)
  | restarting
deriving Repr, DecidableEq

/-- A step of a round. -/
abbrev Step := StateT Cycle (Program Site)

namespace Step

variable {α : Type}

/-- A step that leaves the cycle as it is. -/
def site (p : Program Site α) : Step α :=
  StateT.lift p

/-- The origin of the log lines about rounds. -/
def origin : String := "orchestrator"

/-- Say something. -/
def tell (level : Log.Level) (message : String) : Step Unit :=
  site (say level origin message)

/-- Go on after a best-effort request, with a line in the log if it failed. -/
def bestEffort (level : Log.Level) (failure : String) (p : Program Site (Except Fault Unit))
    : Step Unit :=
  site do tolerate level origin failure (← p)

/-- Count something. -/
def tally (counter : Counter) : Step Unit :=
  bestEffort .warn ("Failed to record " ++ counter.name ++ " metric") (count counter)

/-- Show a color. -/
def display (lamp : Lamp) : Step Unit := do
  modify ({ · with lamp := lamp })
  site (Site.light lamp)

/-- An attempt begins. A refusal is in the log already. -/
def beginAttempt : Step Unit := do
  let time ← site now
  match ← site (Attempt.begin (← get).attempt time) with
  | .ok opened => modify ({ · with attempt := opened })
  | .error _ => pure ()

/-- The open attempt ends and is handed in. -/
def endAttempt (code : Int32) : Step Unit := do
  let time ← site now
  match ← site (Attempt.conclude (← get).attempt code time) with
  | .ok (record, closed) =>
    modify ({ · with attempt := closed })
    bestEffort .warn "Failed to record OTA session" (recordAttempt record)
  | .error _ => pure ()

/-- A release has been found. -/
def found (release : Release) : Step Unit := do
  display .blue
  tell .info ("Starting OTA download of " ++ release.version ++ " ...")
  beginAttempt

/-- A release has been installed. The attempt is handed in first, since the restart would lose
it.
-/
def installed : Step Unit := do
  tell .info "OTA Update Complete, Rebooting System"
  endAttempt Attempt.succeeded
  bestEffort .error "Failed to persist reboot marker" (Site.mark .firmwareUpdate)
  site (Site.restart .firmwareUpdate)

/-- Look for a release and install it if the policy says so. No outcome means that a release has
been installed.
-/
def look (plan : Plan) : Step (Option Outcome) := do
  tell .info "Checking for OTA Update"
  match ← site Site.check with
  | .nothing => return some .upToDate
  | .failed code => return some (← site (Outcome.fail code))
  | .found release =>
    found release
    if !plan.policy.downloads then
      return some .available
    match ← site (Site.install release) with
    | .staged =>
      installed
      return none
    | .deferred => return some .available
    | .failed code => return some (← site (Outcome.fail code))

/-- Tell about an outcome and show it. A failure leaves evidence. -/
def present : Outcome → Step Unit
  | .upToDate => do
    tell .info "Up to date!"
    display .green
  | .available => tell .info "Update available!"
  | .failed code => do
    tell .error ("OTA update failed, rv=" ++ toString code.toInt)
    if (← get).attempt.isOpen then
      endAttempt code
    bestEffort .warn "Failed to record trace event" (notify (.failure code))
    bestEffort .warn "Failed to trigger log collection" keepLog
    display .red

/-- Close a round that ended with an outcome. No attempt outlives its round. -/
def settle (plan : Plan) (outcome : Outcome) : Step Unit := do
  if plan.policy.countsChecks then
    tally (if outcome.reachedServer then .successes else .failures)
  present outcome
  if (← get).attempt.isOpen then
    tell .warn "Update found but not installed this tick; closing OTA session"
    endAttempt Attempt.deferred

end Step

/-- One round. -/
def round (plan : Plan) : Step Result := do
  Step.tally .rounds
  if plan.policy.joins && plan.hasNetwork then
    let _ ← Step.site do Joining.attempt (← Site.isOnline)
  if !(← Step.site Site.isOnline) then
    Step.tell .debug "No connectivity, skipping OTA check"
    Step.display .red
    return .offline
  match ← Step.look plan with
  | none => return .restarting
  | some outcome =>
    Step.settle plan outcome
    return .checked outcome

section

variable {S : Signature} [Reports S] [Tasks S]

/-- The first thing the cycle says. -/
def announce (plan : Plan) : Program S Unit :=
  say .info Step.origin ("OTA task up and running every "
    ++ toString plan.policy.checkSeconds.toNat ++ "s.")

/-- One round and the pause behind it, at a site that is part of larger surroundings. Tells
whether another turn follows: none does after a restart, and there is no pause either.
-/
def turn (site : (r : Site.Request) → Program S (Site.Answer r)) (plan : Plan) (cycle : Cycle)
    : Program S (Bool × Cycle) := do
  let (result, cycle) ← ((round plan).run cycle).realize site
  if result = .restarting then
    say .warn Step.origin "Restart requested but still running; leaving OTA loop"
    return (false, cycle)
  else
    Tasks.pause plan.policy.checkMillis
    return (true, cycle)

/-- Turns up to the one that no other follows, but no more than a number of them. Tells whether
another turn would follow.
-/
def turns (site : (r : Site.Request) → Program S (Site.Answer r)) (plan : Plan)
    : Nat → Cycle → Program S (Bool × Cycle)
  | 0, cycle => return (true, cycle)
  | left + 1, cycle => do
    let (goesOn, cycle) ← turn site plan cycle
    if goesOn then
      turns site plan left cycle
    else
      return (false, cycle)

/-- A cycle that runs by itself, for no more than a number of turns. -/
def run (site : (r : Site.Request) → Program S (Site.Answer r)) (plan : Plan) (limit : Nat)
    (cycle : Cycle)
    : Program S (Bool × Cycle) := do
  announce plan
  turns site plan limit cycle

end

end Cycle

end Caretaker
