import Caretaker.Proofs.Cycle.Secrecy
import Caretaker.Proofs.Device.Calls
import Caretaker.Proofs.Liveness.Passes

/-!
The stored password behind a veil on the device. It is read from the store and told to the radio,
and every task does the same with any other usable password.
-/

namespace Caretaker.Device

open Attempted Provision

-----------------------------------------------------------------------------
-- The veil

/-- What can be seen of what the radio is told about a network. -/
def Station.hidden (station : Station) : Station :=
  { station with
    password := hide station.password
    password_le := hide_le_iff.2 station.password_le }

/-- What can be seen of a request to the platform: no password. -/
def Request.seen : Request → Request
  | .call (.configureRadio station) => .call (.configureRadio station.hidden)
  | r => r

/-- Whether a text is the stored password. -/
def IsPassword (space key : String) : Prop :=
  space = Store.settingsSpace ∧ key = Key.password.name

instance (space key : String) : Decidable (IsPassword space key) :=
  inferInstanceAs (Decidable (_ ∧ _))

/-- What can be seen of a request to the platform and its answer. -/
def seenEvent : Event Platform → Event Platform
  | ⟨.call (.configureRadio station), answer⟩ => ⟨.call (.configureRadio station.hidden), answer⟩
  | ⟨.call (.readText space key room), answer⟩ =>
    ⟨.call (.readText space key room),
      if IsPassword space key then Except.map (Option.map hide) answer else answer⟩
  | e => e

/-- The settings are read as texts and with room for any of them, and nothing else is read there. -/
def Request.IsAdmitted : Request → Prop
  | .call (.readBytes space _ _) => space ≠ Store.settingsSpace
  | .call (.readText _ _ room) => room = Store.settingRoom
  | _ => True

/-- The veil over the stored password. -/
def veil : Veil Platform where
  Admits := Request.IsAdmitted
  request := Request.seen
  event := seenEvent
  request_event e := by
    obtain ⟨r, answer⟩ := e
    cases r with
    | call c => cases c <;> rfl
    | _ => rfl

/-- The requests that do not look at the password. -/
def Request.IsOpen : Request → Prop
  | .call (.readBytes space _ _) => space ≠ Store.settingsSpace
  | .call (.readText space key room) => ¬ IsPassword space key ∧ room = Store.settingRoom
  | _ => True

/-- All can be seen of an answer that does not tell the password, by cases over the request. -/
theorem shows_of_isOpen {r : Request} (isOpen : r.IsOpen) : veil.Shows r := by
  cases r with
  | call c =>
    cases c with
    | readText space key room =>
      refine ⟨isOpen.2, fun a b same => ?_⟩
      have answers := eq_of_heq (Event.mk.inj same).2
      rwa [if_neg isOpen.1, if_neg isOpen.1] at answers
    | readBytes => exact ⟨isOpen, fun a b same => eq_of_heq (Event.mk.inj same).2⟩
    | _ => exact ⟨trivial, fun a b same => eq_of_heq (Event.mk.inj same).2⟩
  | _ => exact ⟨trivial, fun a b same => eq_of_heq (Event.mk.inj same).2⟩

theorem Request.seen_of_ne {r : Request} (other : ∀ station, r ≠ .call (.configureRadio station))
    : r.seen = r := by
  cases r with
  | call c =>
    cases c with
    | configureRadio station => exact absurd rfl (other station)
    | _ => rfl
  | _ => rfl

/-- Only what the radio is told looks the same as something else. -/
theorem eq_of_likens {r r' : Request} (likens : veil.Likens r r')
    : r = r'
      ∨ ∃ station station' : Station, station.hidden = station'.hidden
        ∧ r = .call (.configureRadio station) ∧ r' = .call (.configureRadio station') := by
  have same : r.seen = r'.seen := likens.same
  by_cases told : ∃ station, r = .call (.configureRadio station)
  · obtain ⟨station, rfl⟩ := told
    by_cases told' : ∃ station, r' = .call (.configureRadio station)
    · obtain ⟨station', rfl⟩ := told'
      exact .inr ⟨station, station', Call.configureRadio.inj (Request.call.inj same), rfl, rfl⟩
    · rw [Request.seen_of_ne (not_exists.1 told')] at same
      exact absurd ⟨station.hidden, same.symm⟩ told'
  · rw [Request.seen_of_ne (not_exists.1 told)] at same
    by_cases told' : ∃ station, r' = .call (.configureRadio station)
    · obtain ⟨station', rfl⟩ := told'
      exact absurd ⟨station'.hidden, same⟩ told
    · rw [Request.seen_of_ne (not_exists.1 told')] at same
      exact .inl same

-----------------------------------------------------------------------------
-- Programs without the password

/-- A program that looks the same on the device wherever its answers do. -/
def Veiled {α : Type} (p : Program Platform α) : Prop :=
  Twin veil Eq p p

/-- Work that does not look at the password. -/
def Discreet {α : Type} (p : Program Platform α) : Prop :=
  p.Only Request.IsOpen

theorem Discreet.veiled {α : Type} {p : Program Platform α} (discreet : Discreet p) : Veiled p :=
  .of_only (discreet.mono fun _ => shows_of_isOpen)

theorem Veiled.bind {α β : Type} {p : Program Platform α} {f : α → Program Platform β}
    (first : Veiled p) (rest : ∀ a, Veiled (f a))
    : Veiled (p >>= f) :=
  first.bind_eq rest

theorem discreet_ask {r : Request} (isOpen : r.IsOpen) : Discreet (ask r) :=
  Program.Only.request_iff.2 isOpen

theorem veiled_ask {r : Request} (isOpen : r.IsOpen) : Veiled (ask r) :=
  (discreet_ask isOpen).veiled

theorem discreet_say {level : Log.Level} {origin message : String}
    : Discreet (say level origin message) :=
  discreet_ask trivial

-----------------------------------------------------------------------------
-- The store

theorem discreet_openSpace (space : String) : Discreet (Store.openSpace space).run :=
  only_trying (discreet_ask trivial)

theorem discreet_lookUp {key : Key} (other : key ≠ .password) : Discreet (Store.lookUp key) := by
  have isOpen : ¬ IsPassword Store.settingsSpace key.name := by
    cases key with
    | password => exact absurd rfl other
    | _ => decide
  exact .bind (discreet_ask ⟨isOpen, rfl⟩) fun _ => trivial

theorem ownSpace_ne : Store.ownSpace ≠ Store.settingsSpace := by
  decide

theorem discreet_write (key text : String) : Discreet (Store.write key text).run :=
  only_trying (discreet_ask trivial)

theorem discreet_loadPolicy : Discreet Store.loadPolicy.run := by
  have reads : Discreet Store.readPolicy.run := by
    refine .except_bind (only_trying (discreet_ask ownSpace_ne)) fun found => ?_
    cases found with
    | none => trivial
    | some bytes =>
      dsimp only
      cases Policy.ofJson bytes with
      | ok policy => trivial
      | error fault => cases fault <;> trivial
  refine .except_bind (discreet_openSpace _) fun _ => ?_
  refine .except_bind (only_sure reads) fun answer => ?_
  cases answer with
  | ok policy => exact .except_bind (only_sure discreet_say) fun _ => trivial
  | error failure =>
    refine .except_bind (only_sure discreet_say) fun _ => ?_
    refine .except_bind (only_sure (discreet_write _ _)) fun answer => ?_
    cases answer with
    | ok _ => trivial
    | error failure => exact .except_bind (only_sure discreet_say) fun _ => trivial

theorem discreet_takeMarker : Discreet Store.takeMarker.run := by
  refine .except_bind (only_trying (discreet_ask ownSpace_ne)) fun found => ?_
  cases found with
  | none => trivial
  | some bytes =>
    refine .except_bind (only_trying (discreet_ask trivial)) fun _ => ?_
    cases Reset.Marker.ofJson bytes <;> trivial

theorem discreet_mark (reason : Reset.Reason) : Discreet (faultOf (mark reason)) :=
  only_faultOf (.except_bind (only_sure (discreet_ask trivial)) fun _ => discreet_write _ _)

-----------------------------------------------------------------------------
-- The radio and the lamp

theorem discreet_isOnline : Discreet Radio.isOnline := by
  refine .bind (discreet_ask trivial) fun associated => ?_
  split
  · exact .bind (discreet_ask trivial) fun _ => trivial
  · trivial

theorem discreet_startRadio : Discreet Radio.start.run := by
  refine .except_bind (only_trying (discreet_ask trivial)) fun _ => ?_
  refine .except_bind (only_trying (discreet_ask trivial)) fun _ => ?_
  refine .except_bind (only_trying (discreet_ask trivial)) fun _ => ?_
  refine .except_bind (only_trying (discreet_ask trivial)) fun _ => ?_
  exact only_sure discreet_say

theorem discreet_apply (lamp : Lamp) : Discreet (Pins.apply lamp).run := by
  refine .except_bind (discreet_ask trivial) fun _ => ?_
  exact .except_bind (discreet_ask trivial) fun _ => discreet_ask trivial

theorem discreet_startPins : Discreet Pins.start.run := by
  refine .except_bind (only_trying (discreet_ask trivial)) fun _ => ?_
  refine .except_bind (only_trying (discreet_ask trivial)) fun _ => ?_
  refine .except_bind (only_trying (discreet_ask trivial)) fun _ => ?_
  exact only_trying (discreet_apply .off)

theorem discreet_light (lamp : Lamp) : Discreet (Pins.light lamp) := by
  refine .bind (discreet_apply lamp) fun answer => ?_
  cases answer with
  | ok _ => trivial
  | error code => exact discreet_say

-----------------------------------------------------------------------------
-- The server

namespace Server

theorem discreet_connect (patience : Nat) : Discreet (connect patience).run :=
  only_trying (discreet_ask trivial)

theorem discreet_request (purpose url : String) (headers : List (String × String))
    : Discreet (request purpose url headers).run := by
  refine .except_bind (only_trying (discreet_ask trivial)) fun _ => ?_
  refine .except_bind (only_trying (discreet_ask trivial)) fun response => ?_
  dsimp only
  split
  · exact .except_bind trivial fun _ => trivial
  · trivial

/-- A manifest is read part by part, by induction over the reading. -/
theorem discreet_readManifest (sofar : List UInt8) : Discreet (readManifest sofar).run := by
  induction sofar using readManifest.induct with
  | case1 sofar ih =>
    rw [readManifest]
    refine .except_bind (only_trying (discreet_ask trivial)) fun part => ?_
    split
    · trivial
    · split
      · trivial
      · exact ih part ‹_› ‹_›

theorem discreet_check (width : Width) (backend : Provision.Backend)
    : Discreet (check width backend) := by
  have fetching : Discreet (fetchManifest backend).run :=
    .except_bind (discreet_connect _) fun _ =>
      .except_bind (discreet_request ..) fun _ => discreet_readManifest _
  refine .bind fetching fun answer => ?_
  cases answer with
  | error failure => exact .bind discreet_say fun _ => trivial
  | ok manifest =>
    dsimp only
    cases releaseOfJson width manifest with
    | error e => exact .bind discreet_say fun _ => trivial
    | ok release =>
      dsimp only
      split <;> exact .bind discreet_say fun _ => trivial

/-- An image is moved part by part, by induction over the transfer. -/
theorem discreet_transfer (width : Width) (left total : Nat)
    : Discreet (transfer width left total).run := by
  induction left, total using transfer.induct width with
  | case1 left total ih =>
    rw [transfer]
    refine .except_bind (only_trying (discreet_ask trivial)) fun part => ?_
    split
    · trivial
    · exact .except_bind (only_trying (discreet_ask trivial)) fun _ => ih part ‹_›

theorem discreet_transferAll (width : Width) (announced : Option Nat) (length : Nat)
    : Discreet (transferAll width announced length).run := by
  refine .except_bind (discreet_transfer width length 0) fun total => ?_
  refine .except_bind ?_ fun _ => trivial
  cases announced with
  | none => trivial
  | some expected =>
    dsimp only [checkSize]
    split <;> trivial

theorem discreet_abort : Discreet abort := by
  refine .bind (discreet_ask trivial) fun answer => ?_
  cases answer with
  | ok _ => trivial
  | error code => exact discreet_say

theorem discreet_download (width : Width) (release : Release)
    : Discreet (download width release).run := by
  refine .except_bind (discreet_connect _) fun _ => ?_
  refine .except_bind (discreet_request ..) fun response => ?_
  refine .except_bind (only_trying (discreet_ask trivial)) fun _ => ?_
  refine .except_bind (only_trying (discreet_ask trivial)) fun _ => ?_
  refine .except_bind (only_sure (discreet_transferAll ..)) fun answer => ?_
  cases answer with
  | ok total => exact .except_bind (only_trying (discreet_ask trivial)) fun _ => trivial
  | error failure => exact .except_bind (only_sure discreet_abort) fun _ => trivial

theorem discreet_install (width : Width) (release : Release)
    : Discreet (install width release) := by
  refine .bind (discreet_download width release) fun answer => ?_
  cases answer with
  | ok total => exact .bind discreet_say fun _ => trivial
  | error failure => exact .bind discreet_say fun _ => trivial

end Server

-----------------------------------------------------------------------------
-- The password

theorem map_mapError {ε ε' α β : Type} (answer : Except ε α) (f : ε → ε') (g : α → β)
    : (answer.mapError f).map g = (answer.map g).mapError f := by
  cases answer <;> rfl

/-- Looking up the password twice gives answers that look the same at the site. -/
theorem lookUp_twin
    : Twin veil (Site.veil.Matches (.setting .password) (.setting .password))
        (Store.lookUp .password) (Store.lookUp .password) := by
  let read : Request := .call (.readText Store.settingsSpace Key.password.name Store.settingRoom)
  have likens : veil.Likens read read := ⟨rfl, rfl, rfl⟩
  refine (Twin.request likens).bind fun answer answer' same => .done ?_
  have hides := eq_of_heq (Event.mk.inj same).2
  rw [if_pos ⟨rfl, rfl⟩, if_pos ⟨rfl, rfl⟩] at hides
  refine congrArg (Event.mk (S := Site) (.setting .password)) ?_
  unfold Lookup.hidden
  rw [map_mapError, map_mapError, hides]

/-- What the radio is told shows no more of credentials than can be seen of them. -/
theorem station_hidden (c : Credentials)
    : Radio.station c.hidden = (Radio.station c).map Station.hidden := by
  unfold Radio.station
  by_cases name : c.ssid.utf8ByteSize ≤ ssidLimit
  · rw [dif_pos (show c.hidden.ssid.utf8ByteSize ≤ ssidLimit from name), dif_pos name]
    by_cases password : c.password.utf8ByteSize ≤ passwordLimit
    · rw [dif_pos (show c.hidden.password.utf8ByteSize ≤ passwordLimit from hide_le_iff.2 password),
        dif_pos password]
      simp [Except.map, Station.hidden, isEmpty_hide]
    · rw [dif_neg (show ¬ c.hidden.password.utf8ByteSize ≤ passwordLimit from
          fun le => password (hide_le_iff.1 le)), dif_neg password]
      rfl
  · rw [dif_neg (show ¬ c.hidden.ssid.utf8ByteSize ≤ ssidLimit from name), dif_neg name]
    rfl

/-- What the radio does once it is clear what it is told. -/
def enter (ssid : String) (station : Station) : Attempted Unit := do
  trying (ask (.call (.configureRadio station)))
  sure (say .info Radio.origin ("Connecting to " ++ ssid ++ "..."))
  trying (ask (.call .connectRadio))
  trying (ask (.call .awaitAddress))
  let address ← trying (ask (.call .readAddress))
  sure (say .info Radio.origin ("WiFi connected, IP: " ++ address))

theorem join_eq (c : Credentials)
    : Radio.join c = (liftExcept (Radio.station c) >>= enter c.ssid) := rfl

/-- Once the radio has been told what looks the same, nothing depends on it any more. -/
theorem enter_twin {ssid : String} {station station' : Station}
    (same : station.hidden = station'.hidden)
    : Twin veil Eq (enter ssid station).run (enter ssid station').run := by
  have likens : veil.Likens (.call (.configureRadio station)) (.call (.configureRadio station')) :=
    ⟨trivial, trivial, congrArg (fun s => Request.call (.configureRadio s)) same⟩
  have told : Twin veil Eq (trying (ask (.call (.configureRadio station)))).run
      (trying (ask (.call (.configureRadio station')))).run := by
    refine (Twin.request likens).bind fun answer answer' same => .done ?_
    exact congrArg (Except.mapError Failure.platform) (eq_of_heq (Event.mk.inj same).2)
  refine .except_bind told fun _ => Discreet.veiled ?_
  refine .except_bind (only_sure discreet_say) fun _ => ?_
  refine .except_bind (only_trying (discreet_ask trivial)) fun _ => ?_
  refine .except_bind (only_trying (discreet_ask trivial)) fun _ => ?_
  refine .except_bind (only_trying (discreet_ask trivial)) fun _ => ?_
  exact only_sure discreet_say

/-- The radio joins a network in the same way with credentials that look the same. -/
theorem join_twin {c c' : Credentials} (same : c.hidden = c'.hidden)
    : Twin veil Eq (faultOf (Radio.join c)) (faultOf (Radio.join c')) := by
  have ssid : c.ssid = c'.ssid := show c.hidden.ssid = c'.hidden.ssid from congrArg _ same
  have stations : (Radio.station c).map Station.hidden = (Radio.station c').map Station.hidden := by
    rw [← station_hidden, same, station_hidden]
  have works : Twin veil Eq (Radio.join c).run (Radio.join c').run := by
    rw [join_eq, join_eq, ssid]
    generalize Radio.station c = found at stations ⊢
    generalize Radio.station c' = found' at stations ⊢
    cases found with
    | error failure =>
      cases found' with
      | error failure' =>
        obtain rfl : failure = failure' := Except.error.inj stations
        exact .done rfl
      | ok station' => cases stations
    | ok station =>
      cases found' with
      | error failure' => cases stations
      | ok station' => exact enter_twin (Except.ok.inj stations)
  exact works.bind fun a b equal => .done (congrArg _ equal)

-----------------------------------------------------------------------------
-- The site

theorem discreet_restart (reason : Reset.Reason) : Discreet (restart reason) := by
  refine .bind discreet_say fun _ => .bind (discreet_ask trivial) fun _ => discreet_ask trivial

/-- All but joining and the password itself is done without a look at the password. -/
theorem discreet_site (width : Width) (backend : Provision.Backend) {r : Site.Request}
    (notPassword : r ≠ .setting .password) (notJoin : ∀ credentials, r ≠ .join credentials)
    : Discreet (site width backend r) := by
  cases r with
  | now => exact discreet_ask trivial
  | report report => exact discreet_ask trivial
  | isOnline => exact discreet_isOnline
  | setting key => exact discreet_lookUp fun same => notPassword (congrArg _ same)
  | join credentials => exact absurd rfl (notJoin credentials)
  | check => exact Server.discreet_check width backend
  | install release => exact Server.discreet_install width release
  | light lamp => exact discreet_light lamp
  | mark reason => exact discreet_mark reason
  | restart reason => exact .bind (discreet_restart reason) fun nothing => nothing.elim

/-- On the device, requests to the site that look the same are met by programs that do. -/
theorem site_twin (width : Width) (backend : Provision.Backend) {r r' : Site.Request}
    (likens : Site.veil.Likens r r')
    : Twin veil (Site.veil.Matches r r') (site width backend r) (site width backend r') := by
  have joins {c c' : Credentials} (hides : c.hidden = c'.hidden)
      : Twin veil (Site.veil.Matches (.join c) (.join c')) (site width backend (.join c))
          (site width backend (.join c')) := by
    refine (join_twin hides).mono fun answer answer' same => ?_
    subst same
    exact congrArg (fun c => Event.mk (S := Site) (.join c) answer) hides
  rcases Site.eq_of_likens likens with rfl | ⟨c, c', hides, rfl, rfl⟩
  · by_cases isJoin : ∃ credentials, r = .join credentials
    · obtain ⟨credentials, rfl⟩ := isJoin
      exact joins rfl
    · by_cases isPassword : r = .setting .password
      · subst isPassword
        exact lookUp_twin
      · refine (discreet_site width backend isPassword (not_exists.1 isJoin)).veiled.mono ?_
        intro answer answer' same
        subst same
        rfl
  · exact joins hides

/-- What looks the same at the site looks the same on the device. -/
theorem realize_twin (width : Width) (backend : Provision.Backend) {α β : Type} {R : α → β → Prop}
    {p : Program Site α} {q : Program Site β} (twin : Twin Site.veil R p q)
    : Twin veil R (p.realize (site width backend)) (q.realize (site width backend)) :=
  twin.realize fun _ _ => site_twin width backend

-----------------------------------------------------------------------------
-- The tasks

namespace Veiled

theorem forM {α : Type} {handle : α → Program Platform Unit} (each : ∀ a, Veiled (handle a))
    (items : List α)
    : Veiled (items.forM handle) := by
  induction items with
  | nil => exact .done rfl
  | cons item items ih => exact (each item).bind_eq fun _ => ih

end Veiled

theorem discreet_startTask (job : Job) : Discreet (startTask job).run :=
  .except_bind (only_sure (discreet_ask trivial)) fun _ => trivial

theorem discreet_enrollTasks (policy : Policy) : Discreet (enrollTasks policy) := by
  refine .bind (discreet_ask trivial) fun _ => ?_
  split
  · refine .bind (discreet_ask trivial) fun registry => ?_
    refine .bind ?_ fun answer => ?_
    · unfold Liveness.Registry.enroll
      cases registry.register Liveness.Canary.name none with
      | ok registry => exact .bind discreet_say fun _ => trivial
      | error refusal =>
        cases refusal with
        | duplicate name => exact .bind discreet_say fun _ => trivial
        | full | emptyName => trivial
    · cases answer with
      | ok registry => exact discreet_ask trivial
      | error refusal => trivial
  · trivial

theorem discreet_loadBackend : Discreet (Provision.Backend.load Store.lookUp) := by
  have warns (what : String) (lookup : Lookup)
      : Discreet (Provision.Backend.warnUnread what lookup : Program Platform Unit) := by
    cases lookup with
    | ok _ => trivial
    | error fault => exact discreet_say
  refine .bind (discreet_lookUp nofun) fun key => .bind (warns _ key) fun _ => ?_
  refine .bind (discreet_lookUp nofun) fun chunks => .bind (discreet_lookUp nofun) fun device => ?_
  refine .bind (warns _ chunks) fun _ => .bind (warns _ device) fun _ => ?_
  cases chunks with
  | error _ => trivial
  | ok _ => cases device <;> trivial

theorem discreet_announceServer (backend : Provision.Backend)
    : Discreet (Server.announce backend) := by
  unfold Server.announce
  cases backend.deviceHost with
  | some host => exact discreet_say
  | none => trivial

theorem discreet_previous (taken : Except Fault (Option Reset.Marker))
    : Discreet (Reset.previous taken : Program Platform _) := by
  rcases taken with fault | _ | marker
  · exact .bind discreet_say fun _ => trivial
  · trivial
  · exact .bind discreet_say fun _ => trivial

/-- A boot does not look at the password. -/
theorem discreet_boot (resetReason : Int) : Discreet (boot resetReason).run := by
  refine .except_bind (only_sure discreet_say) fun _ => ?_
  refine .except_bind (only_sure discreet_say) fun _ => ?_
  refine .except_bind (only_trying (discreet_ask trivial)) fun _ => ?_
  refine .except_bind (only_trying (discreet_ask trivial)) fun _ => ?_
  refine .except_bind (only_trying (discreet_ask trivial)) fun _ => ?_
  refine .except_bind discreet_loadPolicy fun policy => ?_
  -- Everything that could hang comes last, with or without a canary.
  have lasts : Discreet (ExceptT.run (do
      Pins.start
      Radio.start
      Store.openSpace Store.settingsSpace
      let backend ← sure (Provision.Backend.load Store.lookUp)
      sure (Server.announce backend)
      startTask (.cycle true ⟨policy, true⟩ backend {}) : Attempted Unit)) := by
    refine .except_bind discreet_startPins fun _ => ?_
    refine .except_bind discreet_startRadio fun _ => ?_
    refine .except_bind (discreet_openSpace _) fun _ => ?_
    refine .except_bind (only_sure discreet_loadBackend) fun backend => ?_
    exact .except_bind (only_sure (discreet_announceServer backend)) fun _ => discreet_startTask _
  dsimp only
  cases policy.flaw? with
  | some flaw => trivial
  | none =>
    refine .except_bind (discreet_openSpace _) fun _ => ?_
    refine .except_bind (only_sure (only_faultOf discreet_takeMarker)) fun taken => ?_
    refine .except_bind (only_sure (discreet_previous taken)) fun _ => ?_
    refine .except_bind (only_sure (discreet_enrollTasks policy)) fun _ => ?_
    refine .except_bind (discreet_openSpace _) fun _ => ?_
    refine .except_bind (discreet_startTask _) fun _ => ?_
    cases policy.canary with
    | true => exact .except_bind (discreet_startTask _) fun _ => lasts
    | false => exact lasts

theorem veiled_upload : Veiled upload := by
  refine .bind (veiled_ask trivial) fun batches => ?_
  refine .bind (.forM (fun _ => discreet_say.veiled) batches) fun _ => ?_
  exact .bind (veiled_ask trivial) fun _ => discreet_say.veiled

/-- The canary touches nothing but its lock and the registry. -/
theorem discreet_visit : Discreet (Liveness.Canary.visit : Program Platform Unit) := by
  have enters : Discreet (Liveness.Canary.enter : Program Platform Unit) := by
    refine .bind (discreet_ask trivial) fun registry => ?_
    refine .bind ?_ fun started => discreet_ask trivial
    unfold Liveness.Registry.start
    split
    · exact .bind (discreet_ask trivial) fun _ => trivial
    · exact .bind discreet_say fun _ => trivial
  have leaves : Discreet (Liveness.Canary.leave : Program Platform Unit) := by
    refine .bind (discreet_ask trivial) fun registry => ?_
    refine .bind ?_ fun stopped => discreet_ask trivial
    unfold Liveness.Registry.stop
    split
    · trivial
    · exact .bind discreet_say fun _ => trivial
  refine .bind enters fun _ => .bind (discreet_ask trivial) fun _ => ?_
  exact .bind (discreet_ask trivial) fun _ => leaves

theorem discreet_stuckAmong (room : Nat) (fallback : UInt32) (entries : List Liveness.Entry)
    (found : List Liveness.Stuck)
    : Discreet (Liveness.Registry.stuckAmong room fallback entries found : Program Platform _) :=
  Liveness.Registry.stuckAmong_reads (discreet_ask trivial) room fallback entries found

/-- A stuck task is handled as at a site. -/
theorem veiled_handle (width : Width) (policy : Policy) (task : Liveness.Stuck)
    : Veiled (handle width policy task) := by
  have efforts {p : Program Site (Except Fault Unit)} {rest : Program Site Unit}
      {level : Log.Level} {origin failure : String} (isEffort : Cycle.IsEffort p)
      (others : Site.Veiled rest)
      : Site.Veiled (p >>= fun answer => tolerate level origin failure answer >>= fun _ => rest) :=
    (Cycle.veiled_of_isEffort isEffort).bind_eq fun _ =>
      (Site.veiled_tolerate ..).bind_eq fun _ => others
  refine realize_twin width {} ((Site.veiled_say ..).bind_eq fun _ => ?_)
  refine efforts (.notice _) (efforts .keepLog ?_)
  split
  · exact efforts (.mark _) (Site.veiled_request nofun)
  · exact .done rfl

/-- A turn of the cycle looks the same wherever its answers do. -/
theorem veiled_turn (width : Width) (plan : Cycle.Plan) (backend : Provision.Backend)
    (cycle : Cycle)
    : Veiled (Cycle.turn (site width backend) plan cycle) := by
  have twin := realize_twin width backend (Cycle.ofParts_veiled.round plan cycle)
  refine twin.bind_eq fun ended => ?_
  obtain ⟨result, after⟩ := ended
  dsimp only
  split
  · exact Veiled.bind discreet_say.veiled fun _ => .done rfl
  · exact Veiled.bind (veiled_ask trivial) fun _ => .done rfl

/-- Whatever a task does, it does the same with any other usable password. -/
theorem veiled_job (width : Width) (task : Job) : Veiled (job width task) := by
  -- All tasks but the first begin with an announcement.
  have announced {α : Type} {isNew : Bool} {announce : Program Platform Unit}
      {rest : Program Platform α} (first : Veiled announce) (others : Veiled rest)
      : Veiled (if isNew = true then announce >>= fun _ => rest else rest) := by
    cases isNew with
    | true => exact first.bind_eq fun _ => others
    | false => exact others
  cases task with
  | main resetReason =>
    refine .bind (discreet_boot resetReason).veiled fun answer => ?_
    cases answer with
    | ok _ => exact .done rfl
    | error failure => exact .bind (veiled_ask trivial) fun nothing => nothing.elim
  | reporting => exact .bind (veiled_ask trivial) fun _ => .bind veiled_upload fun _ => .done rfl
  | patrol isNew policy =>
    refine announced (.bind (veiled_ask trivial) fun _ => discreet_say.veiled) ?_
    refine .bind ?_ fun _ => .done rfl
    refine .bind (veiled_ask trivial) fun _ => .bind (veiled_ask trivial) fun registry => ?_
    refine .bind ?_ fun _ => .done rfl
    refine .bind (discreet_stuckAmong ..).veiled fun stuck => ?_
    exact .bind (.forM (veiled_handle width policy) stuck) fun _ => .done rfl
  | canary isNew policy =>
    refine announced discreet_say.veiled ?_
    refine .bind ?_ fun _ => .done rfl
    exact .bind discreet_visit.veiled fun _ => veiled_ask trivial
  | cycle isNew plan backend state =>
    refine announced discreet_say.veiled ?_
    exact .bind (veiled_turn width plan backend state) fun _ => .done rfl

end Caretaker.Device
