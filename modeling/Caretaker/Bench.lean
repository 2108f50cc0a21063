import Caretaker.Bench.Script
import Caretaker.Cycle
import Caretaker.Evidence
import Caretaker.InTurn
import Caretaker.Liveness.Canary
import Caretaker.Liveness.Patrol

/-!
A test bench runs the parts of a caretaker against scripted collaborators, one step after the
other, and takes notes of what they are asked.
-/

namespace Caretaker

/-- What is on a test bench. -/
structure Bench where
  plan : Cycle.Plan
  evidence : Evidence
  registry : Liveness.Registry
  cycle : Cycle := {}
  script : Bench.Script := {}
  /-- The scripts of the rounds to come, while a cycle runs by itself. -/
  agenda : Option (List Bench.Script) := none
  clock : List Stamp := []
  /-- How often the clock can still be read. Without a number there is no limit. -/
  readings : Option Nat := none
  stored : Provision.Stored := []
  marker : Option Reset.Marker := none
  /-- The notes taken, latest first. -/
  notes : List Bench.Note := []
  /-- The records filed, latest first. -/
  records : List Log.Record := []

namespace Bench

/-- The clock can be read no more, which stops whatever wants to read it. -/
inductive Stopped where
  | noReadings

/-- Work on a bench. -/
abbrev Work := ExceptT Stopped (StateM Bench)

/-- Take a note. -/
def note (n : Note) : Work Unit :=
  modify fun bench => { bench with notes := n :: bench.notes }

/-- File a report. -/
def file (r : Report) : Work r.Answer := do
  let bench ← get
  let filed := bench.evidence.file 0 r
  set { bench with
    evidence := filed.evidence
    records := filed.records.reverse ++ bench.records }
  return filed.answer

/-- Go by another script. -/
def follow (script : Script) : Work Unit :=
  modify fun bench =>
    { bench with
      script := script
      clock := if script.clock.isEmpty then bench.clock else script.clock }

/-- Go by the script of the next round, if a cycle runs by itself. -/
def nextRound : Work Unit := do
  match (← get).agenda with
  | none => pure ()
  | some scripts =>
    follow (scripts.head?.getD .ending)
    modify ({ · with agenda := some scripts.tail })

/-- Read the clock. -/
def readClock : Work Stamp := do
  let bench ← get
  if bench.readings = some 0 then
    throw .noReadings
  let (reading, left) := inTurn 0 bench.clock
  set { bench with clock := left, readings := bench.readings.map (· - 1) }
  note (.clock reading)
  return reading

/-- Fail as the script says, or go on. -/
def unlessFaulty (weak : Weak) (work : Work (Except Fault Unit)) : Work (Except Fault Unit) := do
  match (← get).script.faults weak with
  | some fault => return .error fault
  | none => work

/-- Take a report, of which a note is taken unless something is merely said. -/
def takeReport : (r : Report) → Work r.Answer
  | .say record => file (.say record)
  | .count counter => do
    if counter = .rounds then
      nextRound
    note (.count counter)
    unlessFaulty (.count counter) (file (.count counter))
  | .attempt record => do
    note (.attempt record)
    unlessFaulty .attempt (file (.attempt record))
  | .notice event => do
    note (.notice event)
    unlessFaulty .notice (file (.notice event))
  | .keepLog => do
    note .keepLog
    unlessFaulty .keepLog (file .keepLog)

/-- The scripted site. -/
def site : (r : Site.Request) → Work (Site.Answer r)
  | .now => readClock
  | .report r => takeReport r
  | .isOnline => do
    let bench ← get
    let (answer, left) := inTurn true bench.script.online
    set { bench with script := { bench.script with online := left } }
    note (.online answer)
    return answer
  | .setting key => do
    note (.setting key)
    return (← get).stored.lookUp key
  | .join credentials => do
    note (.join credentials)
    unlessFaulty .join (return .ok ())
  | .check => do
    note .check
    return (← get).script.finding
  | .install release => do
    note (.install release)
    return (← get).script.installation
  | .light lamp => note (.light lamp)
  | .mark reason => do
    note (.mark reason)
    unlessFaulty .mark do
      let uptime ← readClock
      modify ({ · with marker := some ⟨reason, uptime⟩ })
      return .ok ()
  | .restart reason => note (.restart reason)

/-- Run a program at the scripted site. -/
def atSite {α : Type} (p : Program Site α) : Work α :=
  p.interpret site

/-- What a task on a bench asks. -/
inductive Request where
  | site (r : Site.Request)
  | pause (millis : Nat)
  | registry
  | replace (registry : Liveness.Registry)
  | acquire
  | release
  | stuck (task : Liveness.Stuck)

/-- The answers to a task on a bench. -/
@[reducible]
def Answer : Request → Type
  | .site r => Site.Answer r
  | .registry => Liveness.Registry
  | _ => Unit

/-- The surroundings of a task on a bench. -/
abbrev Stand : Signature :=
  ⟨Request, Answer⟩

/-- Make one request. -/
def ask (r : Request) : Program Stand (Answer r) :=
  Program.request (S := Stand) r

instance : Clock Stand where
  now := ask (.site .now)

instance : Reports Stand where
  report r := ask (.site (.report r))

instance : Tasks Stand where
  pause millis := ask (.pause millis)
  registry := ask .registry
  replace registry := ask (.replace registry)
  acquire := ask .acquire
  release := ask .release

/-- Meet a request of a task. Pauses take no time, and nobody else holds the lock. -/
def stand : (r : Request) → Work (Answer r)
  | .site r => site r
  | .pause _ => pure ()
  | .registry => return (← get).registry
  | .replace registry => modify ({ · with registry := registry })
  | .acquire => pure ()
  | .release => pure ()
  | .stuck task => do
    note (.stuck task)
    atSite (Liveness.escalate (← get).plan.policy.escalation task)

/-- Run a task. -/
def atStand {α : Type} (p : Program Stand α) : Work α :=
  p.interpret stand

/-- Repeat a piece of work a number of times. -/
def repeatedly (work : Work Unit) : Nat → Work Unit
  | 0 => pure ()
  | times + 1 => do
    work
    repeatedly work times

-----------------------------------------------------------------------------
-- What can be done on a bench

/-- One round of the cycle. -/
def round : Work Cycle.Result := do
  let bench ← get
  let (result, cycle) ← atSite ((Cycle.round bench.plan).run bench.cycle)
  modify ({ · with cycle := cycle })
  return result

/-- Let a cycle run by itself, with a script for each of its rounds. -/
def runCycle (scripts : List Script) : Work Unit := do
  modify ({ · with agenda := some scripts })
  let bench ← get
  let (_, cycle) ← atStand
    (Cycle.run (fun r => ask (.site r)) bench.plan (scripts.length + 1) bench.cycle)
  modify ({ · with cycle := cycle, agenda := none })

/-- Begin an attempt. -/
def beginAttempt (time : Stamp) : Work (Except Attempt.Misuse Unit) := do
  match ← atSite (Attempt.begin (← get).cycle.attempt time) with
  | .ok opened =>
    modify fun bench => { bench with cycle := { bench.cycle with attempt := opened } }
    return .ok ()
  | .error misuse => return .error misuse

/-- End the open attempt. -/
def endAttempt (code : Int32) (time : Stamp) : Work (Except Attempt.Misuse Attempt.Record) := do
  match ← atSite (Attempt.conclude (← get).cycle.attempt code time) with
  | .ok (record, closed) =>
    modify fun bench => { bench with cycle := { bench.cycle with attempt := closed } }
    return .ok record
  | .error misuse => return .error misuse

/-- Try to join the stored network. -/
def join : Work Joining :=
  atSite do Joining.attempt (← Site.isOnline)

/-- Try to join the stored network, with the first scripted answer about the connection and no
note of it.
-/
def joinUnseen : Work Joining := do
  atSite (Joining.attempt (inTurn true (← get).script.online).1)

/-- Leave a marker. -/
def leaveMarker (marker : Reset.Marker) : Work Unit :=
  modify ({ · with marker := some marker })

/-- Take the marker away. -/
def takeMarker : Work (Option Reset.Marker) := do
  let marker := (← get).marker
  modify ({ · with marker := none })
  return marker

/-- What a boot finds out about the restart before it. With a fault the marker stays. -/
def previousReset (fault : Option Fault) : Work (Option Reset.Marker) := do
  match fault with
  | some fault => atSite (Reset.previous (.error fault))
  | none => atSite (Reset.previous (.ok (← takeMarker)))

/-- Register a task. -/
def enroll (name : String) (timeout : Option UInt32) : Work (Except Liveness.Refusal Unit) := do
  match ← atSite ((← get).registry.enroll name timeout) with
  | .ok registry =>
    modify ({ · with registry := registry })
    return .ok ()
  | .error refusal => return .error refusal

/-- A task arms its entry. -/
def start (name : String) : Work Bool := do
  let (isKnown, registry) ← atSite ((← get).registry.start name)
  modify ({ · with registry := registry })
  return isKnown

/-- A task disarms its entry. -/
def stop (name : String) : Work Bool := do
  let (isKnown, registry) ← atSite ((← get).registry.stop name)
  modify ({ · with registry := registry })
  return isKnown

/-- Look for stuck tasks. -/
def stuck : Work (List Liveness.Stuck) := do
  atSite (← get).registry.stuck

/-- One pass of the patrol. -/
def patrol : Work Nat := do
  atStand (Liveness.Patrol.pass (fun task => ask (.stuck task)) (← get).registry)

/-- Let the patrol run by itself until the clock can be read no more. -/
def runPatrol (readings millis : Nat) : Work Unit := do
  modify ({ · with readings := some readings })
  atStand (Liveness.Patrol.announce millis)
  repeatedly (atStand (Liveness.Patrol.round (fun task => ask (.stuck task)) millis))
    (readings + 1)

/-- One visit of the canary. -/
def visit : Work Unit :=
  atStand Liveness.Canary.visit

/-- A visit of the canary during which somebody else holds its lock and looks for stuck tasks. -/
def heldVisit : Work (List Liveness.Stuck) := do
  atStand Liveness.Canary.enter
  let found ← stuck
  atStand Liveness.Canary.leave
  return found

/-- Let the canary run by itself until the clock can be read no more. -/
def runCanary (readings millis : Nat) : Work Unit := do
  modify ({ · with readings := some readings })
  atStand (Liveness.Canary.announce millis)
  repeatedly (atStand (Liveness.Canary.round millis)) (readings + 1)

/-- Close the diagnostics store for good. -/
def poison : Work Unit :=
  modify fun bench => { bench with evidence := { bench.evidence with isPoisoned := true } }

/-- Put entries into the ring that the log is taken from. Tells how many there are then. -/
def append (entries : List Log.Entry) : Work (Option Nat) := do
  modify fun bench => { bench with evidence := entries.foldl Evidence.append bench.evidence }
  return (← get).evidence.logSize?

/-- Take the batches for upload. -/
def takeBatches : Work (List (List Log.Entry)) := do
  let bench ← get
  let (batches, evidence) := bench.evidence.takeBatches
  set { bench with evidence := evidence }
  return batches

end Bench

end Caretaker
