import Caretaker.Cycle
import Caretaker.Firmware
import Caretaker.Liveness.Canary
import Caretaker.Liveness.Patrol
import Caretaker.Log.Console
import Caretaker.Rehearsal.World
import Caretaker.Schedule

/-!
A rehearsal runs a whole caretaker at a site that exists only in memory: the cycle, the patrol
and the canary side by side, while the first task wedges the canary for a while and waits for the
cycle to end.
-/

namespace Caretaker.Rehearsal

/-- The tasks of a rehearsal. All but the first begin with an announcement. -/
inductive Job where
  | main
  | patrol (isNew : Bool)
  | canary (isNew : Bool)
  | cycle (isNew : Bool) (state : Cycle)

/-- What the tasks ask. -/
inductive Request where
  | site (r : Site.Request)
  | pause (millis : Nat)
  | registry
  | replace (registry : Liveness.Registry)
  | acquire
  | release
  | fork (job : Job)
  | join (task : Nat)
  | exported

/-- The answers to the tasks. -/
@[reducible]
def Answer : Request → Type
  | .site r => Site.Answer r
  | .registry => Liveness.Registry
  | .fork _ => Nat
  | .exported => String
  | _ => Unit

/-- The surroundings of the tasks. -/
abbrev Stage : Signature :=
  ⟨Request, Answer⟩

/-- Make one request. -/
def ask (r : Request) : Program Stage (Answer r) :=
  Program.request (S := Stage) r

instance : Clock Stage where
  now := ask (.site .now)

instance : Reports Stage where
  report r := ask (.site (.report r))

instance : Tasks Stage where
  pause millis := ask (.pause millis)
  registry := ask .registry
  replace registry := ask (.replace registry)
  acquire := ask .acquire
  release := ask .release

/-- The site as a part of the surroundings. -/
def atSite (r : Site.Request) : Program Stage (Site.Answer r) :=
  ask (.site r)

/-- The policy of a rehearsal: short checks, and nothing but evidence about stuck tasks. -/
def policy : Policy :=
  { checkSeconds := 2, escalation := .log }

/-- The plan of a rehearsal. There is a network to join. -/
def plan : Cycle.Plan :=
  ⟨policy, true⟩

/-- The settings of a rehearsal. -/
def settings : Provision.Stored :=
  [(Provision.Key.ssid.name, .ok "sim-network"), (Provision.Key.password.name, .ok "sim-password")]

/-- How many tasks can be registered. -/
def registryCapacity : Nat := 8

/-- The site before the rehearsal. -/
def World.initial : World where
  evidence := .empty (some .info) .journal
  stored := settings
  registry := { capacity := registryCapacity, timeout := policy.stuckMillis }

/-- How long the canary runs before it is wedged. -/
def undisturbedMillis : Nat := 1000

/-- How long the canary is wedged. -/
def wedgedMillis : Nat := 3 * policy.stuckMillis.toNat

/-- Say something about the rehearsal. -/
def announce (message : String) : Program Stage Unit :=
  say .info origin message

/-- The first task. -/
def conduct : Program Stage Unit := do
  announce (Firmware.title ++ " (host simulation)")
  Liveness.Canary.enroll
  let _ ← ask (.fork (.patrol true))
  let _ ← ask (.fork (.canary true))
  let backend ← Provision.Backend.load fun key => atSite (.setting key)
  announce ("[sim] backend overrides: " ++ backend.describe)
  let cycle ← ask (.fork (.cycle true {}))
  Tasks.pause undisturbedMillis
  announce ("[sim] wedging " ++ Liveness.Canary.name)
  Tasks.acquire
  Tasks.pause wedgedMillis
  Tasks.release
  announce "[sim] released"
  ask (.join cycle)
  announce ("[sim] telemetry: " ++ (← ask .exported))

/-- Handle a stuck task at the site. -/
def handle (task : Liveness.Stuck) : Program Stage Unit :=
  (Liveness.escalate policy.escalation task).realize atSite

/-- What each task does until its next job. -/
def job : Job → Program Stage (Option Job)
  | .main => do
    conduct
    return none
  | .patrol isNew => do
    let millis := policy.patrolMillis.toNat
    if isNew then
      Liveness.Patrol.announce millis
    Liveness.Patrol.round handle millis
    return some (.patrol false)
  | .canary isNew => do
    let millis := policy.canaryMillis.toNat
    if isNew then
      Liveness.Canary.announce millis
    Liveness.Canary.round millis
    return some (.canary false)
  | .cycle isNew state => do
    if isNew then
      Cycle.announce plan
    let (goesOn, state) ← Cycle.turn atSite plan state
    return if goesOn then some (.cycle false state) else none

/-- What comes of a request at a time. -/
def react (time : Nat) (r : Request) (world : World) : Reaction (Answer r) Job × World :=
  match r with
  | .site r =>
    let (a, world) := (site r).run { world with uptime := time, clock := [Stamp.ofMillis time] }
    (.answer a, world)
  | .pause millis => (.later millis (), world)
  | .registry => (.answer world.registry, world)
  | .replace registry => (.answer (), { world with registry := registry })
  | .acquire => (.acquire (), world)
  | .release => (.release (), world)
  | .fork job => (.fork job id, world)
  | .join task => (.join task (), world)
  | .exported => (.answer world.evidence.diagnostics.toJson, world)

/-- How a rehearsal went. -/
structure Performance where
  ending : Schedule.Ending
  /-- What went to the console after the banner. -/
  printed : List Printed

/-- Rehearse up to a time limit in milliseconds. -/
def perform (limit : Nat) : Performance :=
  let (ending, state) := Schedule.start ⟨job, react⟩ limit 4 .main World.initial
  ⟨ending, state.world.printed.reverse⟩

/-- A printed record as it stands on the console. -/
def Printed.line (p : Printed) : String :=
  Log.Console.line (Log.Console.stamp p.uptime) p.record

/-- Everything that a rehearsal prints. -/
def Performance.console (p : Performance) : List String :=
  Log.Console.banner ++ p.printed.map Printed.line

/-! Rounds of the cycle alone, at the same site. -/

/-- One round of a cycle. -/
def round (plan : Cycle.Plan) (cycle : Cycle) : Work (Cycle.Result × Cycle) :=
  ((Cycle.round plan).run cycle).interpret site

/-- Meet a request of the cycle when it runs alone and its pauses take no time. -/
def alone : (r : Request) → Work (Answer r)
  | .site r => site r
  | .pause _ => pure ()
  | .registry => return (← get).registry
  | .replace registry => modify ({ · with registry := registry })
  | .acquire => pure ()
  | .release => pure ()
  | .fork _ => return 0
  | .join _ => pure ()
  | .exported => return (← get).evidence.diagnostics.toJson

/-- The longest play of the server. -/
def playLength : Nat := 4

/-- Let a cycle run by itself until the play is over. -/
def runCycle (plan : Cycle.Plan) : Work Unit := do
  let _ ← (Cycle.run (S := Stage) atSite plan playLength {}).interpret alone

end Caretaker.Rehearsal
