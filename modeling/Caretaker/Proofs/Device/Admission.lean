import Caretaker.Proofs.Device.Attempts
import Caretaker.Proofs.Device.Veil
import Caretaker.Proofs.Provision.Credentials

/-!
Which stored credentials the radio takes. Loading them allows network names and passwords of one
and the same length. The radio has less room for a name, so that it turns down the longer ones of
those that have been loaded, whatever the platform does.
-/

namespace Caretaker

open Provision Device Attempted

-----------------------------------------------------------------------------
-- Loading

/-- Any usable texts that are stored on the device are loaded. -/
theorem Device.Store.load_of_isUsable {c : Credentials} (name : isUsable c.ssid = true)
    (word : isUsable c.password = true)
    : Runs (Credentials.load lookUp)
        [⟨.call (.readText settingsSpace "wifi_ssid" settingRoom), .ok (some c.ssid)⟩,
          ⟨.call (.readText settingsSpace "wifi_password" settingRoom), .ok (some c.password)⟩]
        (.ok (some c)) := by
  have found (key : Key) (text : String)
      : Runs (lookUp key)
          [⟨.call (.readText settingsSpace key.name settingRoom), .ok (some text)⟩]
          (.ok (some text)) :=
    Runs.bind_done_iff.2 ⟨.ok (some text), Runs.request_iff.2 rfl, rfl⟩
  exact Credentials.load_runs_iff.2
    ⟨_, _, rfl, found .ssid c.ssid, name, found .password c.password, word⟩

-----------------------------------------------------------------------------
-- Joining

namespace Device.Radio

variable {events : List (Event Platform)} {result : Except Failure Unit}

/-- A station for a network and its password. -/
def IsFor (c : Credentials) (s : Station) : Prop :=
  s.ssid = c.ssid ∧ s.password = c.password
    ∧ s.authentication = if c.password.isEmpty then .none else .wpa2Personal

/-- The radio takes a name and a password that are within its limits, as they are. -/
theorem station_eq_ok_iff {c : Credentials} {s : Station}
    : station c = .ok s
      ↔ c.ssid.utf8ByteSize ≤ ssidLimit ∧ c.password.utf8ByteSize ≤ passwordLimit ∧ IsFor c s := by
  unfold station
  split
  case isFalse long => simp [long]
  case isTrue short =>
    split
    case isFalse long => simp [long]
    case isTrue fits =>
      constructor
      · rintro ⟨⟩
        exact ⟨short, fits, rfl, rfl, rfl⟩
      · obtain ⟨ssid, password, authentication, _, _⟩ := s
        rintro ⟨-, -, ⟨⟩, ⟨⟩, ⟨⟩⟩
        rfl

theorem station_of_longName {c : Credentials} (long : ssidLimit < c.ssid.utf8ByteSize)
    : station c = .error (.longName c.ssid) :=
  dif_neg (Nat.not_le.2 long)

/-- The code with which a call that joins a network fails. -/
def refusal? : Event Platform → Option Code
  | ⟨.call (.configureRadio _), .error code⟩ | ⟨.call .connectRadio, .error code⟩
  | ⟨.call .awaitAddress, .error code⟩ => some code
  | ⟨.call .readAddress, .error code⟩ => some code
  | _ => none

/-- The result of joining a network, as far as the platform decides it. -/
def resultOf (events : List (Event Platform)) : Except Failure Unit :=
  match events.findSome? refusal? with
  | some code => .error (.platform code)
  | none => .ok ()

/-- The radio is told what to join, and that fails just if a call fails. -/
theorem enter_runs {ssid : String} {s : Station} (ran : Runs (enter ssid s).run events result)
    : (∃ answer rest, events = ⟨.call (.configureRadio s), answer⟩ :: rest)
      ∧ result = resultOf events := by
  rw [enter] at ran
  rcases call_bind_runs ran Runs.request_iff.1 with
    ⟨code, rfl, rfl⟩ | ⟨⟨⟩, rest, rfl, told⟩
  · exact ⟨⟨_, _, rfl⟩, rfl⟩
  refine ⟨⟨_, _, rfl⟩, ?_⟩
  obtain ⟨saying, rest, ⟨⟩, rfl, said, connecting⟩ := sure_bind_iff.1 told
  obtain rfl := Runs.request_iff.1 said
  rcases call_bind_runs connecting Runs.request_iff.1 with
    ⟨code, rfl, rfl⟩ | ⟨⟨⟩, rest, rfl, connected⟩
  · rfl
  rcases call_bind_runs connected Runs.request_iff.1 with
    ⟨code, rfl, rfl⟩ | ⟨⟨⟩, rest, rfl, waited⟩
  · rfl
  rcases call_bind_runs waited Runs.request_iff.1 with
    ⟨code, rfl, rfl⟩ | ⟨address, rest, rfl, read⟩
  · rfl
  obtain ⟨⟨⟩, said, rfl⟩ := sure_runs_iff.1 read
  obtain rfl := Runs.request_iff.1 said
  rfl

/-- Credentials that the loader hands out are within one limit for names and passwords, and the
radio takes them if and only if the name is within its own limit as well. A longer name is turned
down with nothing asked of the platform. With any other name the radio is told just the credentials,
and joining fails only if a call to the platform fails.
-/
theorem loaded_admitted_iff {S : Signature} {lookup : Key → Program S Lookup}
    {looking : List (Event S)} {c : Credentials}
    (loaded : Runs (Credentials.load lookup) looking (.ok (some c)))
    : (isUsable c.ssid = true ∧ isUsable c.password = true)
      ∧ ((∃ s, station c = .ok s) ↔ c.ssid.utf8ByteSize ≤ ssidLimit)
      ∧ ∀ events result, Runs (join c).run events result
        → (ssidLimit < c.ssid.utf8ByteSize → events = [] ∧ result = .error (.longName c.ssid))
          ∧ (c.ssid.utf8ByteSize ≤ ssidLimit
            → (∃ s answer rest, IsFor c s ∧ events = ⟨.call (.configureRadio s), answer⟩ :: rest)
              ∧ result = resultOf events) := by
  obtain ⟨-, -, -, -, name, -, word⟩ := Credentials.load_runs_iff.1 loaded
  have fits : c.password.utf8ByteSize ≤ passwordLimit := (isUsable_iff.1 word).2
  have admitted_iff : (∃ s, station c = .ok s) ↔ c.ssid.utf8ByteSize ≤ ssidLimit := by
    constructor
    · rintro ⟨s, taken⟩
      exact (station_eq_ok_iff.1 taken).1
    · intro short
      exact ⟨⟨c.ssid, c.password, _, short, fits⟩, station_eq_ok_iff.2 ⟨short, fits, rfl, rfl, rfl⟩⟩
  refine ⟨⟨name, word⟩, admitted_iff, fun events result ran => ?_⟩
  rw [join_eq] at ran
  constructor
  · intro long
    rw [station_of_longName long] at ran
    exact Runs.done_iff.1 ran
  · intro short
    obtain ⟨s, taken⟩ := admitted_iff.2 short
    rw [taken] at ran
    obtain ⟨⟨answer, rest, starts⟩, resulting⟩ := enter_runs ran
    exact ⟨⟨s, answer, rest, (station_eq_ok_iff.1 taken).2.2, starts⟩, resulting⟩

theorem loaded_admitted_iff_cafe
    : ∃ looking s, Runs (Credentials.load Store.lookUp) looking (.ok (some ⟨"Café", "hunter22"⟩))
      ∧ station ⟨"Café", "hunter22"⟩ = .ok s := by
  let c : Credentials := ⟨"Café", "hunter22"⟩
  have loaded := Store.load_of_isUsable (c := c) (by decide +kernel) (by decide +kernel)
  obtain ⟨-, admitted_iff, -⟩ := loaded_admitted_iff loaded
  have short : c.ssid.utf8ByteSize ≤ ssidLimit := by decide +kernel
  obtain ⟨s, taken⟩ := admitted_iff.2 short
  exact ⟨_, s, loaded, taken⟩

/-- A name of 33 bytes is loaded, and no run of joining the network gets as far as the platform. -/
theorem loaded_turned_down
    : let c : Credentials := ⟨"abcdefghijklmnopqrstuvwxyz0123456", "hunter22"⟩
      (∃ looking, Runs (Credentials.load Store.lookUp) looking (.ok (some c)))
      ∧ (∀ s, station c ≠ .ok s)
      ∧ Runs (join c).run [] (.error (.longName c.ssid)) := by
  intro c
  have loaded := Store.load_of_isUsable (c := c) (by decide +kernel) (by decide +kernel)
  have long : ssidLimit < c.ssid.utf8ByteSize := by decide +kernel
  have down := station_of_longName long
  refine ⟨⟨_, loaded⟩, fun s taken => ?_, ?_⟩
  · cases down.symm.trans taken
  · rw [join_eq, down]
    exact .done _

end Device.Radio

end Caretaker
