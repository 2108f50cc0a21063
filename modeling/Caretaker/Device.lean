import Caretaker.Device.Pins
import Caretaker.Device.Radio
import Caretaker.Device.Server
import Caretaker.Device.Store
import Caretaker.Liveness.Canary
import Caretaker.Liveness.Patrol

/-!
A caretaker on its device: what each request to the site comes to on the platform, how the device
boots, and the tasks that run side by side afterwards.
-/

namespace Caretaker.Device

open Attempted

/-- Work as a request to the site sees it. -/
def faultOf {α : Type} (work : Attempted α) : Program Platform (Except Fault α) := do
  return (← work.run).mapError fun failure => ⟨failure.text⟩

/-- How long the console needs to finish, in milliseconds. -/
def drainMillis : Nat := 100

/-- Restart the device. Nothing comes after it. -/
def restart (reason : Reset.Reason) : Program Platform Empty := do
  say .warn "restart" ("Restarting: " ++ reason.tag)
  ask (.call (.drain drainMillis))
  ask (.call .reboot)

/-- Leave a marker with the time since boot. -/
def mark (reason : Reset.Reason) : Attempted Unit := do
  let uptime ← sure now
  Store.leaveMarker ⟨reason, uptime⟩

/-- The device as a site. -/
def site (width : Width) (backend : Provision.Backend)
    : (r : Site.Request) → Program Platform (Site.Answer r)
  | .now => now
  | .report r => Reports.report r
  | .isOnline => Radio.isOnline
  | .setting key => Store.lookUp key
  | .join credentials => faultOf (Radio.join credentials)
  | .check => Server.check width backend
  | .install release => Server.install width release
  | .light lamp => Pins.light lamp
  | .mark reason => faultOf (mark reason)
  | .restart reason => do nomatch (← restart reason)

/-- The origin of the log lines about booting. -/
def origin : String := "esp32_ota_supervisor"

/-- Why the device was reset, in words. -/
def resetWords (reason : Int) : String :=
  match reason with
  | 1 => "Power-on"
  | 2 => "External pin"
  | 3 => "Software reset"
  | 4 => "Panic"
  | 5 => "Interrupt watchdog"
  | 6 => "Task watchdog"
  | 7 => "Other watchdog"
  | 8 => "Deep sleep"
  | 9 => "Brownout"
  | _ => "Unknown"

/-- How many tasks can be registered. -/
def registryCapacity : Nat := 8

/-- Set up the registry. The canary is the only task in it. -/
def enrollTasks (policy : Policy) : Program Platform Unit := do
  Tasks.replace { capacity := registryCapacity, timeout := policy.stuckMillis }
  if policy.canary then
    Liveness.Canary.enroll

/-- Start another task. -/
def startTask (job : Job) : Attempted Unit := do
  let _ ← sure (ask (.fork job))

/-- Boot the device. What could hang comes after the patrol has been started. -/
def boot (resetReason : Int) : Attempted Unit := do
  sure (say .info origin Firmware.title)
  sure (say .info origin ("Boot reason: " ++ resetWords resetReason))
  trying (ask (.call .takePeripherals))
  trying (ask (.call .takeEventLoop))
  trying (ask (.call .takeStore))
  let policy ← Store.loadPolicy
  if let some flaw := policy.flaw? then
    throw (.flawedPolicy flaw)
  Store.openSpace Store.ownSpace
  let taken ← sure (faultOf Store.takeMarker)
  let _ ← sure (Reset.previous taken)
  sure (enrollTasks policy)
  Store.openSpace Store.ownSpace
  startTask (.patrol true policy)
  if policy.canary then
    startTask (.canary true policy)
  Pins.start
  Radio.start
  Store.openSpace Store.settingsSpace
  let backend ← sure (Provision.Backend.load Store.lookUp)
  sure (Server.announce backend)
  startTask (.cycle true ⟨policy, true⟩ backend {})

/-- How often the first task uploads what has been set aside, in milliseconds. -/
def reportMillis : Nat := 60 * 1000

/-- Upload what has been set aside. -/
def upload : Program Platform Unit := do
  let batches ← ask .takeBatches
  batches.forM fun batch =>
    say .info origin ("Uploading log batch (" ++ toString batch.length ++ " lines)")
  say .debug origin ("Telemetry: " ++ (← ask .exported))

/-- Handle a stuck task. The restart does not depend on where releases come from. -/
def handle (width : Width) (policy : Policy) (task : Liveness.Stuck) : Program Platform Unit :=
  (Liveness.escalate policy.escalation task).realize (site width {})

/-- What each task does until its next job. -/
def job (width : Width) : Job → Program Platform (Option Job)
  | .main resetReason => do
    match ← (boot resetReason).run with
    | .ok _ => return some .reporting
    | .error failure => nomatch (← ask (.abandon failure))
  | .reporting => do
    Tasks.pause reportMillis
    upload
    return some .reporting
  | .patrol isNew policy => do
    let millis := policy.patrolMillis.toNat
    if isNew then
      Liveness.Patrol.announce millis
    Liveness.Patrol.round (handle width policy) millis
    return some (.patrol false policy)
  | .canary isNew policy => do
    let millis := policy.canaryMillis.toNat
    if isNew then
      Liveness.Canary.announce millis
    Liveness.Canary.round millis
    return some (.canary false policy)
  | .cycle isNew plan backend state => do
    if isNew then
      Cycle.announce plan
    let (goesOn, state) ← Cycle.turn (site width backend) plan state
    return if goesOn then some (.cycle false plan backend state) else none

end Caretaker.Device
