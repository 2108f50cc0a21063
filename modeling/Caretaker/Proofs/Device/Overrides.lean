import Caretaker.Device
import Caretaker.Proofs.Device.Fetching
import Caretaker.Proofs.Provision.Overrides

/-!
Which server a device asks. While it boots it looks up where releases come from, and the cycle that
it starts then asks just that server for manifests, with the project key if there is one.
-/

namespace Caretaker.Device

open Attempted Provision

-----------------------------------------------------------------------------
-- Booting

/-- A setting is read from the store. -/
def reading (key : Key) (given : Except Code (Option String)) : Event Platform :=
  ⟨.call (.readText Store.settingsSpace key.name Store.settingRoom), given⟩

/-- A line tells that a setting could not be read from the store. -/
def unreadLine (what : String) (code : Code) : Event Platform :=
  said .warn "settings" ("Failed to read " ++ what ++ ": " ++ code.name)

theorem load_lookUp_runs_iff {events : List (Event Platform)} {b : Backend}
    : Runs (Backend.load Store.lookUp) events b
      ↔ ∃ key chunks device, events = Backend.lookedUp reading unreadLine key chunks device
        ∧ Backend.Overrides key chunks device b := by
  refine Backend.load_runs_iff (fun code : Code => ⟨code.name⟩) ?_ Runs.request_iff
  intro key asked looked
  exact Runs.bind_done_iff.trans (exists_congr fun given => and_congr_left' Runs.request_iff)

/-- Work whose last requests are of some kind, if it succeeds. -/
def EndsWith {α : Type} (last : List (Event Platform) → Prop) (work : Attempted α) : Prop :=
  ∀ events a, Runs work.run events (.ok a) → ∃ before rest, events = before ++ rest ∧ last rest

theorem EndsWith.bind {α β : Type} {last : List (Event Platform) → Prop} {x : Attempted α}
    {f : α → Attempted β} (behind : ∀ a, EndsWith last (f a))
    : EndsWith last (x >>= f) := by
  intro events b ran
  obtain ⟨first, second, a, rfl, -, ran⟩ := bind_ok_iff.1 ran
  obtain ⟨before, rest, rfl, ends⟩ := behind a second b ran
  exact ⟨first ++ before, rest, (List.append_assoc ..).symm, ends⟩

/-- The cycle is started with what three lookups override. -/
def StartsCycle (rest : List (Event Platform)) : Prop :=
  ∃ key chunks device backend announced plan task,
    rest = Backend.lookedUp reading unreadLine key chunks device ++ announced
      ++ [⟨.fork (.cycle true plan backend {}), task⟩]
    ∧ Backend.Overrides key chunks device backend
    ∧ Runs (Server.announce backend) announced ()

theorem endsWith_boot (resetReason : Int) : EndsWith StartsCycle (boot resetReason) := by
  have lasts (policy : Policy) : EndsWith StartsCycle (do
      Pins.start
      Radio.start
      Store.openSpace Store.settingsSpace
      let backend ← sure (Backend.load Store.lookUp)
      sure (Server.announce backend)
      startTask (.cycle true ⟨policy, true⟩ backend {})) := by
    refine .bind fun _ => .bind fun _ => .bind fun _ => ?_
    intro events a ran
    rw [sure_bind_iff] at ran
    obtain ⟨looking, rest, backend, rfl, looked, ran⟩ := ran
    obtain ⟨key, chunks, device, rfl, overrides⟩ := load_lookUp_runs_iff.1 looked
    rw [sure_bind_iff] at ran
    obtain ⟨announced, rest, ⟨⟩, rfl, told, started⟩ := ran
    obtain ⟨starting, nothing, task, rfl, forked, done⟩ := sure_bind_iff.1 started
    obtain rfl := Runs.request_iff.1 forked
    obtain ⟨rfl, -⟩ := Runs.done_iff.1 done
    refine ⟨[], _, ?_, key, chunks, device, backend, announced, ⟨policy, true⟩, task, rfl,
      overrides, told⟩
    rw [List.append_nil, List.append_assoc, List.nil_append]
  refine .bind fun _ => .bind fun _ => .bind fun _ => .bind fun _ => .bind fun _ => ?_
  refine .bind fun policy => ?_
  dsimp only
  cases policy.flaw? with
  | some flaw =>
    intro events a ran
    cases (Runs.done_iff.1 ran).2
  | none =>
    refine .bind fun _ => .bind fun _ => .bind fun _ => .bind fun _ => .bind fun _ => ?_
    refine .bind fun _ => ?_
    cases policy.canary with
    | true => exact .bind fun _ => lasts policy
    | false => exact lasts policy

/-- The cycle goes on with what it was started with. -/
theorem next_of_cycle {width : Width} {isNew : Bool} {plan : Cycle.Plan} {backend : Backend}
    {state : Cycle} {next : Job} {events : List (Event Platform)}
    (ran : Runs (job width (.cycle isNew plan backend state)) events (some next))
    : ∃ later, next = .cycle false plan backend later := by
  have turned {events : List (Event Platform)}
      (ran : Runs
        (Cycle.turn (site width backend) plan state >>= fun turned => .done
          (if turned.1 then some (.cycle false plan backend turned.2) else none))
        events (some next))
      : ∃ later, next = .cycle false plan backend later := by
    obtain ⟨⟨goesOn, later⟩, -, last⟩ := Runs.bind_done_iff.1 ran
    cases goesOn with
    | true => exact ⟨later, Option.some.inj last⟩
    | false => cases last
  cases isNew with
  | true =>
    obtain ⟨announcing, rest, ⟨⟩, rfl, -, ran⟩ := Runs.bind_iff.1 ran
    exact turned ran
  | false => exact turned ran

-----------------------------------------------------------------------------
-- Looking for a release

/-- What servers are asked for, with what goes with it. -/
def requested (events : List (Event Platform)) : List (String × List (String × String)) :=
  events.filterMap fun
    | ⟨.call (.get url headers), _⟩ => some (url, headers)
    | _ => none

theorem requested_append (first second : List (Event Platform))
    : requested (first ++ second) = requested first ++ requested second :=
  List.filterMap_append

namespace Server

theorem Asking.requested {purpose url : String} {headers : List (String × String)}
    {asking : List (Event Platform)} {answer : Except Failure Response}
    (asks : Asking purpose url headers asking answer)
    : Device.requested asking = [(url, headers)] := by
  cases asks <;> rfl

/-- Nothing more is asked for while the parts of a manifest are gathered, by induction over them. -/
theorem Gathers.requested {sofar : List UInt8} {reading : List (Event Platform)}
    {result : Except Failure (List UInt8)} (gathers : Gathers sofar reading result)
    : Device.requested reading = [] := by
  induction gathers with
  | unread | ended | tooLong => rfl
  | more part _ _ _ ih => exact ih

/-- A manifest is asked for once if a connection can be opened, and never if not. -/
theorem Fetching.requested {backend : Backend} {fetched : List (Event Platform)}
    {result : Except Failure (List UInt8)} (fetching : Fetching backend fetched result)
    : (Device.requested fetched = [] ∧ ∃ code,
        ⟨.call (.connect 4096 manifestPatience), .error code⟩ ∈ fetched)
      ∨ Device.requested fetched = [(manifestUrl backend, manifestHeaders backend)] := by
  cases fetching with
  | unconnected code => exact .inl ⟨rfl, code, List.mem_singleton_self _⟩
  | refused asks => exact .inr asks.requested
  | answered asks gathers =>
    refine .inr ?_
    rw [requested_append, gathers.requested, List.append_nil]
    exact asks.requested

end Server

/-- Where the manifest of a host is. -/
def manifestAt (host : String) : String :=
  "http://" ++ host ++ "/firmware/latest.json?current_version=" ++ Firmware.version

theorem manifestAt_inj {host other : String}
    : manifestAt host = manifestAt other ↔ host = other := by
  simp [manifestAt]

/-- A request for a manifest. It goes to the host that is overridden, to the default one if none is,
and carries the project key if there is one.
-/
structure Addresses (backend : Backend) (url : String) (headers : List (String × String))
    : Prop where
  host (host : String)
    : url = manifestAt host
      ↔ backend.deviceHost = some host ∨ backend.deviceHost = none ∧ host = "ota.local"
  keyed (key : String)
    : headers = [("accept", "application/json"), ("x-project-key", key)]
      ↔ backend.projectKey = some key
  keyless : headers = [("accept", "application/json")] ↔ backend.projectKey = none

/-- Manifests are asked for as the overrides say, by cases over what is overridden. -/
theorem addresses_manifest (backend : Backend)
    : Addresses backend (Server.manifestUrl backend) (Server.manifestHeaders backend) := by
  obtain ⟨projectKey, chunksHost, deviceHost⟩ := backend
  have url : Server.manifestUrl ⟨projectKey, chunksHost, deviceHost⟩
      = manifestAt (deviceHost.getD "ota.local") := by
    simp [Server.manifestUrl, manifestAt, Server.defaultHost, String.append_assoc]
  refine ⟨fun host => ?_, fun key => ?_, ?_⟩
  · rw [url, manifestAt_inj]
    cases deviceHost <;> simp [eq_comm]
  · cases projectKey <;> simp [Server.manifestHeaders]
  · cases projectKey <;> simp [Server.manifestHeaders]

/-- A look for a release asks for one manifest if a connection can be opened, and for nothing else.
-/
theorem requested_of_check {width : Width} {backend : Backend} {asked : List (Event Platform)}
    {finding : Finding} (ran : Runs (site width backend .check) asked finding)
    : (requested asked = [] ∧ ∃ code,
        ⟨.call (.connect 4096 Server.manifestPatience), .error code⟩ ∈ asked)
      ∨ ∃ url headers, requested asked = [(url, headers)] ∧ Addresses backend url headers := by
  obtain ⟨fetched, result, fetching, -, rfl⟩ := Server.check_runs_iff.1 ran
  have behind : requested (fetched ++ [said (Server.remark width result).1 Server.origin
      (Server.remark width result).2]) = requested fetched := by
    rw [requested_append]
    exact List.append_nil _
  rw [behind]
  rcases fetching.requested with ⟨unasked, code, failed⟩ | asked
  · exact .inl ⟨unasked, code, List.mem_append_left _ failed⟩
  · exact .inr ⟨_, _, asked, addresses_manifest backend⟩

-----------------------------------------------------------------------------
-- From the lookups to the requests

/-- Whatever comes of looking up the three settings, it gives something: it looks up each of them
once, in a fixed order, warns just of those that cannot be read, and takes what was read by itself
for the project key and together for the hosts, but never an empty text. A boot that succeeds ends
with such lookups in the store and starts the cycle with what they override, and the cycle goes on
with that. Each look for a release then asks for one manifest, at the overridden host if there is
one and at the default host otherwise, and with the project key if there is one, unless no
connection can be opened.
-/
theorem overrides_decide_whom_to_ask
    : (∀ events b, Runs (Backend.load Site.setting) events b
        ↔ ∃ key chunks device,
          events = Backend.lookedUp Backend.asking Backend.unreadLine key chunks device
          ∧ Backend.Overrides key chunks device b)
      ∧ (∀ key chunks device : Lookup, ∃ b, Backend.Overrides key chunks device b
        ∧ b.projectKey ≠ some "" ∧ b.chunksHost ≠ some "" ∧ b.deviceHost ≠ some "")
      ∧ (∀ resetReason events, Runs (boot resetReason).run events (.ok ())
        → ∃ before rest, events = before ++ rest ∧ StartsCycle rest)
      ∧ (∀ width isNew plan backend state events next,
        Runs (job width (.cycle isNew plan backend state)) events (some next)
        → ∃ later, next = .cycle false plan backend later)
      ∧ ∀ width backend asked finding, Runs (site width backend .check) asked finding
        → (requested asked = [] ∧ ∃ code,
            ⟨.call (.connect 4096 Server.manifestPatience), .error code⟩ ∈ asked)
          ∨ ∃ url headers, requested asked = [(url, headers)]
            ∧ Addresses backend url headers := by
  refine ⟨fun _ _ => Backend.load_site_runs_iff, fun key chunks device => ?_, ?_,
    fun _ _ _ _ _ _ _ => next_of_cycle, fun _ _ _ _ => requested_of_check⟩
  · have overrides := Backend.overrides_ofLookups key chunks device
    exact ⟨_, overrides, overrides.ne_empty⟩
  · exact fun resetReason events ran => endsWith_boot resetReason events () ran

/-- A platform that has some settings stored, and on which everything that a boot asks works. -/
def provisioned (settings : List (String × String)) (_ : List (Event Platform))
    : (r : Request) → Option (Answer r)
  | .report (.say _) => some ()
  | .call (.readText _ key _) => some (.ok (settings.lookup key))
  | .call (.readBytes ..) => some (.ok none)
  | .call .takePeripherals | .call .takeEventLoop | .call .takeStore | .call (.openStore _)
  | .call (.write ..) | .call (.usePin _) | .call (.setPin ..) | .call .createRadio
  | .call .wrapRadio | .call (.configureRadio _) | .call .startRadio => some (.ok ())
  | .registry => some ⟨8, 1000, []⟩
  | .replace _ => some ()
  | .fork _ => some 0
  | _ => none

theorem overrides_decide_whom_to_ask_partly
    : (∃ events, Runs (Backend.load Site.setting) events ⟨some "abc123", none, none⟩
        ∧ ⟨.setting .deviceUrl, .ok (some "host")⟩ ∈ events)
      ∧ (∃ events before rest, Runs (boot 1).run events (.ok ()) ∧ events = before ++ rest
        ∧ StartsCycle rest)
      ∧ ∃ asked url headers,
        Runs (site .bits32 ⟨none, none, some "host"⟩ .check) asked (.failed (-1))
        ∧ requested asked = [(url, headers)]
        ∧ url = manifestAt "host" := by
  obtain ⟨loads, -, boots, -, looks⟩ := overrides_decide_whom_to_ask
  refine ⟨?loaded, ?booted, ?looked⟩
  case loaded =>
    have overrides := Backend.overrides_ofLookups (.ok (some "abc123") : Lookup)
      (.error ⟨"torn"⟩) (.ok (some "host"))
    refine ⟨_, (loads _ _).2 ⟨_, _, _, rfl, overrides⟩, ?_⟩
    simp [Backend.lookedUp, Backend.asking]
  case booted =>
    let path := (boot 1).run.pursue (provisioned []) []
    have ended : path.2.getLeft?.map Except.isOk = some true := by decide +kernel
    obtain ⟨result, ended, succeeded⟩ := Option.map_eq_some_iff.1 ended
    have ran := Runs.pursue (Sum.getLeft?_eq_some_iff.1 ended)
    cases result with
    | error failure => cases succeeded
    | ok =>
      obtain ⟨before, rest, split, starts⟩ := boots 1 _ ran
      exact ⟨_, before, rest, ran, split, starts⟩
  case looked =>
    have fetching : Server.Fetching ⟨none, none, some "host"⟩ _ _ := .refused (.unasked ⟨-1⟩)
    have ran : Runs (Server.check .bits32 _) _ _ :=
      Server.check_runs_iff.2 ⟨_, _, fetching, rfl, rfl⟩
    rcases looks _ _ _ _ ran with ⟨-, code, failed⟩ | ⟨url, headers, asked, addresses⟩
    · simp [said] at failed
    · exact ⟨_, url, headers, ran, asked, (addresses.host "host").2 (.inl rfl)⟩

end Caretaker.Device
