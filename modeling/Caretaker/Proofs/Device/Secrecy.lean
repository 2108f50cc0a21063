import Caretaker.Device.Trial
import Caretaker.Proofs.Device.Veil
import Caretaker.Proofs.Schedule.Twins

/-!
The stored password stays hidden. Two devices whose stores differ in nothing but the password, in
surroundings that cannot tell usable passwords apart, do the same at the same time, keep the same
evidence and come to the same ending. Only what the radio is told differs.
-/

namespace Caretaker.Device

open Provision

-----------------------------------------------------------------------------
-- Stores and worlds

/-- Two stores hold the same, but that each of them may hold a usable password of its own. -/
def Contents.Twins (c c' : Contents) : Prop :=
  ∀ space key, c.find? space key = c'.find? space key
    ∨ IsPassword space key ∧ ∃ p p' : String, isUsable p = true ∧ isUsable p' = true
      ∧ c.find? space key = some (Text.toBytes p) ∧ c'.find? space key = some (Text.toBytes p')

namespace Contents.Twins

variable {c c' : Contents}

theorem insert (twins : c.Twins c') (space key : String) (bytes : List UInt8)
    : (c.insert space key bytes).Twins (c'.insert space key bytes) := by
  intro space' key'
  rw [find?_insert, find?_insert]
  split
  · exact .inl rfl
  · exact twins space' key'

theorem erase (twins : c.Twins c') (space key : String)
    : (c.erase space key).Twins (c'.erase space key) := by
  intro space' key'
  rw [find?_erase, find?_erase]
  split
  · exact .inl rfl
  · exact twins space' key'

/-- Any two usable passwords can be stored in the same place. -/
theorem of_passwords (c : Contents) {p p' : String} (usable : isUsable p = true)
    (usable' : isUsable p' = true)
    : Twins (c.insert Store.settingsSpace Key.password.name (Text.toBytes p))
        (c.insert Store.settingsSpace Key.password.name (Text.toBytes p')) := by
  intro space key
  rw [find?_insert, find?_insert]
  split
  case isTrue isPassword => exact .inr ⟨isPassword, p, p', usable, usable', rfl, rfl⟩
  case isFalse => exact .inl rfl

end Contents.Twins

/-- What can be seen of an observation: no password. -/
def Observation.hidden : Observation → Observation
  | .called (.configureRadio station) => .called (.configureRadio station.hidden)
  | o => o

/-- All of a world but its store and what has been observed. -/
def World.apart (w : World) : World :=
  { w with contents := [], observed := [] }

/-- Two worlds are the same but for the stored password, and for the one that the radio has been
told. In particular, both have the same evidence, registry and answers of servers.
-/
structure World.Twins (w w' : World) : Prop where
  contents : w.contents.Twins w'.contents
  observed : w.observed.map Observation.hidden = w'.observed.map Observation.hidden
  apart : w.apart = w'.apart

namespace World

/-- A world that differs from another one in its store and in what has been observed. -/
def alter (w : World) (contents : Contents) (observed : List Observation) : World :=
  { w with contents := contents, observed := observed }

variable {w w' : World} {contents : Contents} {observed : List Observation}

namespace Twins

theorem registry (twins : w.Twins w') : w.registry = w'.registry :=
  show w.apart.registry = w'.apart.registry from congrArg _ twins.apart

/-- Twins have the same evidence: the journal, the counters and attempts, and the batches. -/
theorem evidence (twins : w.Twins w') : w.evidence = w'.evidence :=
  show w.apart.evidence = w'.apart.evidence from congrArg _ twins.apart

theorem eq_alter (twins : w.Twins w') : w' = w.alter w'.contents w'.observed := by
  obtain ⟨-, -, apart⟩ := twins
  cases w
  cases w'
  cases apart
  rfl

theorem observe (twins : w.Twins w') {o o' : Observation} (same : o.hidden = o'.hidden)
    : (w.observe o).Twins (w'.observe o') where
  contents := twins.contents
  observed := congrArg₂ List.cons same twins.observed
  apart := twins.apart

theorem recount (twins : w.Twins w') (name : String)
    : (w.recount name).Twins (w'.recount name) := by
  rw [twins.eq_alter]
  exact ⟨twins.contents, twins.observed, rfl⟩

end Twins

-----------------------------------------------------------------------------
-- Calls

/-- A call that fails comes to the same in both worlds, by cases over the call. -/
theorem refuse_twin (twins : w.Twins (w.alter contents observed)) (code : Code) (c : Call)
    : Reaction.Twin (veil.Matches (.call c) (.call c)) (w.refuse code c).1
        ((w.alter contents observed).refuse code c).1
      ∧ (w.refuse code c).2.Twins ((w.alter contents observed).refuse code c).2 := by
  cases c with
  | connectRadio => exact ⟨.later _ rfl, twins.contents, twins.observed, rfl⟩
  | drain millis => exact ⟨.later millis rfl, twins⟩
  | reboot => exact ⟨.exit 0, twins⟩
  | _ => exact ⟨.answer rfl, twins⟩

/-- The text in stored bytes, read with so much room. -/
def textIn (room : Nat) : Option (List UInt8) → Except Code (Option String)
  | none => .ok none
  | some bytes =>
    if room < bytes.length + 1 then
      .error .invalidLength
    else
      .ok (some ((Text.ofBytes? bytes).getD ""))

theorem accept_readText (w : World) (space key : String) (room : Nat)
    : w.accept (.readText space key room)
      = (.answer (textIn room (w.contents.find? space key)), w) := by
  dsimp only [accept, textIn]
  cases w.contents.find? space key with
  | none => rfl
  | some bytes =>
    dsimp only
    split <;> rfl

/-- There is room for a usable password where a setting is read. -/
theorem textIn_of_isUsable {p : String} (usable : isUsable p = true)
    : textIn Store.settingRoom (some (Text.toBytes p)) = .ok (some p) := by
  have short : (Text.toBytes p).length ≤ credentialLimit := (isUsable_iff.1 usable).2
  have limit : credentialLimit = 64 := rfl
  have room : Store.settingRoom = 256 := rfl
  rw [textIn, if_neg (by omega), Text.ofBytes?_toBytes, Option.getD_some]

/-- A setting that is read looks the same in both worlds: at most, each of them gives a usable
password of its own.
-/
theorem readText_twin (twins : w.Twins (w.alter contents observed)) (space key : String)
    : Reaction.Twin (veil.Matches (.call (.readText space key Store.settingRoom))
          (.call (.readText space key Store.settingRoom)))
        (w.accept (.readText space key Store.settingRoom)).1
        ((w.alter contents observed).accept (.readText space key Store.settingRoom)).1
      ∧ (w.accept (.readText space key Store.settingRoom)).2.Twins
          ((w.alter contents observed).accept (.readText space key Store.settingRoom)).2 := by
  rw [accept_readText, accept_readText]
  refine ⟨.answer ?_, twins⟩
  rcases twins.contents space key with same | ⟨isPassword, p, p', usable, usable', found, found'⟩
  · rw [same]
    rfl
  · rw [found, found', textIn_of_isUsable usable, textIn_of_isUsable usable']
    have hides : hide p = hide p' := by
      rw [hide_of_isUsable usable, hide_of_isUsable usable']
    unfold Veil.Matches veil seenEvent
    dsimp only
    rw [if_pos isPassword, if_pos isPassword]
    exact congrArg (fun s =>
      (⟨.call (.readText space key Store.settingRoom), .ok (some s)⟩ : Event Platform)) hides

/-- A call that does not fail comes to the same in both worlds, by cases over the call. -/
theorem accept_twin (twins : w.Twins (w.alter contents observed)) {c : Call}
    (admits : veil.Admits (.call c))
    : Reaction.Twin (veil.Matches (.call c) (.call c)) (w.accept c).1
        ((w.alter contents observed).accept c).1
      ∧ (w.accept c).2.Twins ((w.alter contents observed).accept c).2 := by
  cases c with
  | readBytes space key room =>
    have same : w.contents.find? space key = contents.find? space key :=
      (twins.contents space key).resolve_right fun h => admits h.1.1
    dsimp only [accept, alter]
    rw [← same]
    cases w.contents.find? space key with
    | none => exact ⟨.answer rfl, twins⟩
    | some bytes => exact ⟨.answer rfl, twins⟩
  | readText space key room =>
    obtain rfl : room = Store.settingRoom := admits
    exact readText_twin twins space key
  | write space key text =>
    exact ⟨.answer rfl, twins.contents.insert space key (Text.toBytes text), twins.observed, rfl⟩
  | erase space key => exact ⟨.answer rfl, twins.contents.erase space key, twins.observed, rfl⟩
  | connectRadio => exact ⟨.later _ rfl, twins.contents, twins.observed, rfl⟩
  | awaitAddress => exact ⟨.answer rfl, twins.contents, twins.observed, rfl⟩
  | submit =>
    dsimp only [accept]
    rw [show (w.alter contents observed).replies = w.replies from rfl]
    cases w.replies with
    | nil => exact ⟨.answer rfl, twins⟩
    | cons reply replies => exact ⟨.later _ rfl, twins.contents, twins.observed, rfl⟩
  | read room left => exact ⟨.later _ rfl, twins.contents, twins.observed, rfl⟩
  | drain millis => exact ⟨.later millis rfl, twins⟩
  | reboot => exact ⟨.exit 0, twins⟩
  | _ => exact ⟨.answer rfl, twins⟩

/-- The same is observed of a call in both worlds. -/
theorem observation_alter (w : World) (contents : Contents) (observed : List Observation)
    (c : Call) (isRefused : Bool)
    : (w.alter contents observed).observation c isRefused = w.observation c isRefused := by
  cases c <;> rfl

/-- Calls that look the same come to the same in both worlds. -/
theorem meet_twin {w w' : World} {c c' : Call} (likens : veil.Likens (.call c) (.call c'))
    (twins : w.Twins w')
    : Reaction.Twin (veil.Matches (.call c) (.call c')) (w.meet c).1 (w'.meet c').1
      ∧ (w.meet c).2.Twins (w'.meet c').2 := by
  have equal := twins.eq_alter
  generalize w'.contents = contents at equal
  generalize w'.observed = observed at equal
  subst equal
  rcases eq_of_likens likens with same | ⟨station, station', same, told, told'⟩
  · obtain rfl : c = c' := Request.call.inj same
    unfold meet
    rw [show (w.alter contents observed).failure? c.name = w.failure? c.name from rfl]
    have observation (isRefused : Bool) := congrArg Observation.hidden
      (observation_alter w contents observed c isRefused).symm
    cases w.failure? c.name with
    | some code =>
      obtain ⟨reaction, after⟩ := refuse_twin twins code c
      exact ⟨reaction, (after.observe (observation true)).recount c.name⟩
    | none =>
      obtain ⟨reaction, after⟩ := accept_twin twins likens.admits
      exact ⟨reaction, (after.observe (observation false)).recount c.name⟩
  · obtain rfl := Request.call.inj told
    obtain rfl := Request.call.inj told'
    have hides : (Observation.called (.configureRadio station)).hidden
        = (Observation.called (.configureRadio station')).hidden :=
      congrArg (fun s => Observation.called (.configureRadio s)) same
    have matched (answer : Except Code Unit)
        : veil.Matches (.call (.configureRadio station)) (.call (.configureRadio station'))
          answer answer :=
      congrArg (fun s => (⟨.call (.configureRadio s), answer⟩ : Event Platform)) same
    unfold meet
    rw [show (w.alter contents observed).failure? (Call.configureRadio station').name
      = w.failure? (Call.configureRadio station).name from rfl]
    cases w.failure? (Call.configureRadio station).name with
    | some code => exact ⟨.answer (matched _), (twins.observe hides).recount _⟩
    | none => exact ⟨.answer (matched _), (twins.observe hides).recount _⟩

/-- A report is filed alike in both worlds. -/
theorem file_twin {w w' : World} (twins : w.Twins w') (time : Nat) (r : Report)
    : (w.file time r).1 = (w'.file time r).1 ∧ (w.file time r).2.Twins (w'.file time r).2 := by
  have equal := twins.eq_alter
  generalize w'.contents = contents at equal
  generalize w'.observed = observed at equal
  subst equal
  refine ⟨rfl, twins.contents, ?_, rfl⟩
  unfold file
  dsimp only
  rw [List.map_append, List.map_append, twins.observed]
  rfl

end World

/-- In worlds that are the same but for the password, requests that look the same come to the same.
-/
theorem trial_blind : Schedule.Blind veil World.Twins Trial.react := by
  intro time r r' w w' likens twins
  rcases eq_of_likens likens with rfl | ⟨station, station', -, rfl, rfl⟩
  · cases r with
    | call c => exact World.meet_twin likens twins
    | report report =>
      obtain ⟨answers, after⟩ := World.file_twin twins time report
      exact ⟨.answer (Veil.matches_of_eq answers), after⟩
    | now => exact ⟨.answer rfl, twins⟩
    | pause millis => exact ⟨.later millis rfl, twins⟩
    | registry => exact ⟨.answer (Veil.matches_of_eq twins.registry), twins⟩
    | replace registry =>
      rw [twins.eq_alter]
      exact ⟨.answer rfl, twins.contents, twins.observed, rfl⟩
    | acquire => exact ⟨.acquire rfl, twins⟩
    | release => exact ⟨.release rfl, twins⟩
    | fork job => exact ⟨.fork job fun _ => rfl, twins⟩
    | takeBatches =>
      rw [twins.eq_alter]
      exact ⟨.answer rfl, twins.contents, twins.observed, rfl⟩
    | exported =>
      have exported : w.evidence.diagnostics.toJson = w'.evidence.diagnostics.toJson := by
        rw [twins.evidence]
      exact ⟨.answer (Veil.matches_of_eq exported), twins⟩
    | abandon failure => exact ⟨.exit 1, twins.observe rfl⟩
  · exact World.meet_twin likens twins

-----------------------------------------------------------------------------
-- Any surroundings

/-- Surroundings of which only the evidence is known. All that has been asked is kept with its time,
latest first.
-/
structure Hosted (Host : Type) where
  host : Host
  evidence : Evidence
  asked : List (Nat × Request) := []

namespace Hosted

variable {Host : Type}

/-- What comes of a request at a time. Reports are filed and the evidence is handed out. Everything
else is up to the host: the clock, the registry, the store, the radio and the servers.
-/
def react (rest : Nat → (r : Request) → Host → Reaction (Answer r) Job × Host) (time : Nat)
    (r : Request) (h : Hosted Host)
    : Reaction (Answer r) Job × Hosted Host :=
  let asked := (time, r) :: h.asked
  match r with
  | .report report =>
    let filed := h.evidence.file time report
    (.answer filed.answer, ⟨h.host, filed.evidence, asked⟩)
  | .takeBatches =>
    let (batches, evidence) := h.evidence.takeBatches
    (.answer batches, ⟨h.host, evidence, asked⟩)
  | .exported => (.answer h.evidence.diagnostics.toJson, ⟨h.host, h.evidence, asked⟩)
  | r =>
    let (reaction, host) := rest time r h.host
    (reaction, ⟨host, h.evidence, asked⟩)

/-- All that has been asked so far, as far as it can be seen. -/
def seen (h : Hosted Host) : List (Nat × Request) :=
  h.asked.map fun (time, r) => (time, r.seen)

/-- Hosts look the same, the evidence is the same, and what has been asked looks the same. -/
structure Twins (Same : Host → Host → Prop) (h h' : Hosted Host) : Prop where
  host : Same h.host h'.host
  evidence : h.evidence = h'.evidence
  seen : h.seen = h'.seen

/-- Surroundings are as blind as their host. -/
theorem blind {Same : Host → Host → Prop}
    {rest : Nat → (r : Request) → Host → Reaction (Answer r) Job × Host}
    (blind : Schedule.Blind veil Same rest)
    : Schedule.Blind veil (Twins Same) (react rest) := by
  intro time r r' h h' likens twins
  have seen : (time, r.seen) :: h.seen = (time, r'.seen) :: h'.seen := by
    rw [twins.seen, show r.seen = r'.seen from likens.same]
  obtain ⟨reaction, after⟩ := blind time r r' h.host h'.host likens twins.host
  rcases eq_of_likens likens with rfl | ⟨station, station', -, rfl, rfl⟩
  · cases r with
    | report report =>
      dsimp only [react]
      rw [twins.evidence]
      exact ⟨.answer rfl, twins.host, rfl, seen⟩
    | takeBatches =>
      dsimp only [react]
      rw [twins.evidence]
      exact ⟨.answer rfl, twins.host, rfl, seen⟩
    | exported =>
      dsimp only [react]
      rw [twins.evidence]
      exact ⟨.answer rfl, twins.host, rfl, seen⟩
    | _ => exact ⟨reaction, after, twins.evidence, seen⟩
  · exact ⟨reaction, after, twins.evidence, seen⟩

end Hosted

-----------------------------------------------------------------------------
-- Secrecy

namespace Trial

/-- What can be seen of how a trial went. -/
def Outcome.seen (outcome : Outcome) : Schedule.Ending × List Observation :=
  (outcome.ending, outcome.observed.map Observation.hidden)

/-- The world that a trial leaves. -/
def last (limit : Nat) (resetReason : Int) (w : World) (width : Width) : World :=
  (Schedule.start ⟨job width, react⟩ limit tasks (.main resetReason) w).2.world

theorem run_eq (limit : Nat) (resetReason : Int) (w : World) (width : Width)
    : run limit resetReason w width
      = ⟨(Schedule.start ⟨job width, react⟩ limit tasks (.main resetReason) w).1,
        (last limit resetReason w width).observed.reverse⟩ := rfl

/-- Trials in worlds that are the same but for the password look the same and leave such worlds. -/
theorem run_twin {w w' : World} (twins : w.Twins w') (limit : Nat) (resetReason : Int)
    (width : Width)
    : (run limit resetReason w width).seen = (run limit resetReason w' width).seen
      ∧ (last limit resetReason w width).Twins (last limit resetReason w' width) := by
  obtain ⟨ending, after⟩ := Schedule.start_twin ⟨job width, react⟩ trial_blind (veiled_job width)
    limit tasks (.main resetReason) twins
  have observed : (last limit resetReason w width).observed.map Observation.hidden
      = (last limit resetReason w' width).observed.map Observation.hidden := after.observed
  refine ⟨?_, after⟩
  rw [run_eq, run_eq, Outcome.seen, Outcome.seen, List.map_reverse, List.map_reverse, observed,
    ending]

end Trial

/-- The stored password stays hidden. Stores that hold usable passwords of their own and the same
otherwise cannot be told apart by what is done with them, as long as the surroundings cannot tell
usable passwords apart either. In rounds and in attempts to join, all that is asked of the site is
the same but for the password that is handed on, and when the radio joins a network, all but the
password that it is told. On a device, whatever does not come from the tasks themselves, these ask
the same at the same times, leave the same evidence and come to the same ending. On a scripted
platform, the rest of the store and all that is observed is the same as well. And credentials that
have been looked up are described in the same way.
-/
theorem password_stays_hidden
    : (∀ {plan cycle last last'} {one other : List (Cycle.Passage Site)},
        Cycle.Rounds Site.ask plan cycle one last → Cycle.Rounds Site.ask plan cycle other last'
        → one.length = other.length
        → AnswerAlike (Site.veil.dealings (one.flatMap Cycle.Passage.events))
            (Site.veil.dealings (other.flatMap Cycle.Passage.events))
        → one.map (Cycle.Passage.seen Site.veil) = other.map (Cycle.Passage.seen Site.veil)
          ∧ last = last')
      ∧ (∀ isOnline,
        Site.veil.Conceals Eq (Joining.attempt isOnline) (Joining.attempt isOnline))
      ∧ (∀ {c c' : Credentials}, c.hidden = c'.hidden
        → veil.Conceals Eq (faultOf (Radio.join c)) (faultOf (Radio.join c')))
      ∧ (∀ {Host} {Same : Host → Host → Prop}
          {rest : Nat → (r : Request) → Host → Reaction (Answer r) Job × Host},
        Schedule.Blind veil Same rest → ∀ {h h' : Hosted Host}, h.Twins Same h'
        → ∀ width limit tasks first,
          (Schedule.start ⟨job width, Hosted.react rest⟩ limit tasks first h).1
            = (Schedule.start ⟨job width, Hosted.react rest⟩ limit tasks first h').1
          ∧ (Schedule.start ⟨job width, Hosted.react rest⟩ limit tasks first h).2.world.Twins Same
              (Schedule.start ⟨job width, Hosted.react rest⟩ limit tasks first h').2.world)
      ∧ (∀ {w w' : World}, w.Twins w' → ∀ limit resetReason width,
        (Trial.run limit resetReason w width).seen = (Trial.run limit resetReason w' width).seen
        ∧ (Trial.last limit resetReason w width).Twins (Trial.last limit resetReason w' width))
      ∧ Site.veil.Conceals
          (fun loaded loaded' =>
            loaded.map (Option.map Credentials.describe)
              = loaded'.map (Option.map Credentials.describe))
          (Credentials.load Site.setting) (Credentials.load Site.setting) := by
  refine ⟨Cycle.Rounds.agree_veiled, fun isOnline => (Joining.attempt_veiled isOnline).agree,
    fun same => (join_twin same).agree, ?hosted, Trial.run_twin, ?loaded⟩
  case hosted =>
    intro Host Same rest blind h h' twins width limit tasks first
    exact Schedule.start_twin _ (Hosted.blind blind) (veiled_job width) limit tasks first twins
  case loaded =>
    exact (Credentials.load_twin.mono fun _ _ => Credentials.describe_eq_of_seen_eq).agree

/-- A site that is offline and knows one network, which it can join with any password. -/
def offlineWith (password : String) : (r : Site.Request) → Site.Answer r
  | .setting .ssid => .ok (some "home")
  | .setting .password => .ok (some password)
  | .isOnline => false
  | .join _ => .ok ()
  | r => Site.steady .nothing .deferred r

theorem offlineWith_matches {p p' : String} (usable : isUsable p = true)
    (usable' : isUsable p' = true) (r r' : Site.Request)
    (same : Site.veil.request r = Site.veil.request r')
    : Site.veil.Matches r r' (offlineWith p r) (offlineWith p' r') := by
  rcases Site.eq_of_likens ⟨trivial, trivial, same⟩ with rfl | ⟨c, c', hides, rfl, rfl⟩
  · by_cases isPassword : r = .setting .password
    · subst isPassword
      have hides : hide p = hide p' := by
        rw [hide_of_isUsable usable, hide_of_isUsable usable']
      exact congrArg (fun s => (⟨.setting .password, .ok (some s)⟩ : Event Site)) hides
    · refine Veil.matches_of_eq ?_
      cases r with
      | setting key =>
        cases key with
        | password => exact absurd rfl isPassword
        | _ => rfl
      | _ => rfl
  · exact congrArg (fun c => (⟨.join c, .ok ()⟩ : Event Site)) hides

/-- What is asked and answered when the radio joins a network at once. -/
def joined (ssid : String) (station : Station) (address : String) : List (Event Platform) :=
  [⟨.call (.configureRadio station), .ok ()⟩,
    ⟨.report (.say ⟨.info, some Radio.origin, "Connecting to " ++ ssid ++ "..."⟩), ()⟩,
    ⟨.call .connectRadio, .ok ()⟩,
    ⟨.call .awaitAddress, .ok ()⟩,
    ⟨.call .readAddress, .ok address⟩,
    ⟨.report (.say ⟨.info, some Radio.origin, "WiFi connected, IP: " ++ address⟩), ()⟩]

theorem join_runs {c : Credentials} {station : Station} (found : Radio.station c = .ok station)
    (address : String)
    : Runs (faultOf (Radio.join c)) (joined c.ssid station address) (.ok ()) := by
  rw [join_eq, found]
  iterate 6 apply Runs.ask
  exact .done _

theorem dealings_joined {station station' : Station} (same : station.hidden = station'.hidden)
    (ssid address : String)
    : veil.dealings (joined ssid station address)
      = veil.dealings (joined ssid station' address) := by
  have told : veil.Matches (.call (.configureRadio station)) (.call (.configureRadio station'))
      (.ok ()) (.ok ()) :=
    congrArg (fun s => (⟨.call (.configureRadio s), .ok ()⟩ : Event Platform)) same
  exact congrArg (· :: _) (Veil.dealing_eq_of_matches told)

/-- A world in which nothing is stored but a password. -/
def worldWith (password : String) : World :=
  { setting := {}
    contents := Contents.insert [] Store.settingsSpace Key.password.name (Text.toBytes password) }

/-- Two devices with passwords of their own hand them on and are the same otherwise. -/
theorem password_stays_hidden_swapped
    : ∃ (one other : Cycle.Passage Site) (told told' : List (Event Platform)),
      Cycle.Rounds Site.ask ⟨{}, true⟩ {} [one] one.after
      ∧ Cycle.Rounds Site.ask ⟨{}, true⟩ {} [other] other.after
      ∧ ⟨.join ⟨"home", "letmein"⟩, .ok ()⟩ ∈ one.events
      ∧ ⟨.join ⟨"home", "opensesame"⟩, .ok ()⟩ ∈ other.events
      ∧ one.seen Site.veil = other.seen Site.veil
      ∧ ((Joining.attempt false).follow (offlineWith "letmein")).2
        = ((Joining.attempt false).follow (offlineWith "opensesame")).2
      ∧ Runs (faultOf (Radio.join ⟨"home", "letmein"⟩)) told (.ok ())
      ∧ Runs (faultOf (Radio.join ⟨"home", "opensesame"⟩)) told' (.ok ())
      ∧ veil.dealings told = veil.dealings told'
      ∧ (worldWith "letmein").contents ≠ (worldWith "opensesame").contents
      ∧ (Schedule.start ⟨job .bits32, Hosted.react Trial.react⟩ 1000 4 (.main 1)
            ⟨worldWith "letmein", .empty none .journal, []⟩).1
        = (Schedule.start ⟨job .bits32, Hosted.react Trial.react⟩ 1000 4 (.main 1)
            ⟨worldWith "opensesame", .empty none .journal, []⟩).1
      ∧ (Trial.run 1000 1 (worldWith "letmein") .bits32).seen
        = (Trial.run 1000 1 (worldWith "opensesame") .bits32).seen
      ∧ (((Credentials.load Site.setting).follow (offlineWith "letmein")).2.map
            (Option.map Credentials.describe))
        = (((Credentials.load Site.setting).follow (offlineWith "opensesame")).2.map
            (Option.map Credentials.describe)) := by
  obtain ⟨rounds, attempts, radio, hosted, scripted, loads⟩ := password_stays_hidden
  have usable : isUsable "letmein" = true := by decide
  have usable' : isUsable "opensesame" = true := by decide
  have alike {α : Type} (p : Program Site α) := Veil.alike_of_given
    (offlineWith_matches usable usable')
    (Program.answer_of_mem_follow (S := Site) (offlineWith "letmein") p)
    (Program.answer_of_mem_follow (S := Site) (offlineWith "opensesame") p)
  have first (password : String) : Runs _ _ _ := Runs.realize_iff.2
    ⟨_, Runs.follow (S := Site) (offlineWith password) ((Cycle.round ⟨{}, true⟩).run {}),
      Site.met_ask_iff.2 rfl⟩
  have passages := rounds (.next (first "letmein") (.none _)) (.next (first "opensesame") (.none _))
    rfl (by
      rw [List.flatMap_singleton, List.flatMap_singleton]
      exact alike _)
  have station : Radio.station ⟨"home", "letmein"⟩
      = .ok ⟨"home", "letmein", .wpa2Personal, by decide, by decide⟩ := rfl
  have station' : Radio.station ⟨"home", "opensesame"⟩
      = .ok ⟨"home", "opensesame", .wpa2Personal, by decide, by decide⟩ := rfl
  have told := join_runs station "10.0.0.7"
  have told' := join_runs station' "10.0.0.7"
  have worlds : (worldWith "letmein").Twins (worldWith "opensesame") :=
    ⟨Contents.Twins.of_passwords [] usable usable', rfl, rfl⟩
  have hosts : Hosted.Twins World.Twins ⟨worldWith "letmein", .empty none .journal, []⟩
      ⟨worldWith "opensesame", .empty none .journal, []⟩ := ⟨worlds, rfl, rfl⟩
  refine ⟨_, _, _, _, .next (first "letmein") (.none _), .next (first "opensesame") (.none _),
    ?handed, ?handed', (List.cons.inj passages.1).1, ?attempted, told, told', ?radio, ?stored,
    (hosted trial_blind hosts .bits32 1000 4 (.main 1)).1, (scripted worlds 1000 1 .bits32).1,
    ?loaded⟩
  case handed => exact List.mem_of_getElem? (i := 5) rfl
  case handed' => exact List.mem_of_getElem? (i := 5) rfl
  case attempted => exact (attempts false (.follow _ _) (.follow _ _) (alike _)).2
  case radio =>
    have hides : Credentials.hidden ⟨"home", "letmein"⟩
        = Credentials.hidden ⟨"home", "opensesame"⟩ := by
      rw [Credentials.hidden, Credentials.hidden, hide_of_isUsable usable, hide_of_isUsable usable']
    refine (radio hides told told' ?_).1
    rw [dealings_joined rfl]
    exact .refl _
  case stored => decide
  case loaded => exact (loads (.follow _ _) (.follow _ _) (alike _)).2

end Caretaker.Device
