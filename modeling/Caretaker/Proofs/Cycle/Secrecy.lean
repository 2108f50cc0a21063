import Caretaker.Proofs.Cycle.Parts
import Caretaker.Proofs.Cycle.Rounds
import Caretaker.Proofs.Program.Veil
import Caretaker.Proofs.Provision.Credentials

/-!
The stored password behind a veil. The cycle hands it on to whoever joins the network and does
nothing else with it, so a round behind the veil is the same with any other usable password.
-/

namespace Caretaker

-----------------------------------------------------------------------------
-- Passwords

namespace Provision

/-- What can be seen of a password: whether it is usable, and all of one that is not. -/
def hide (s : String) : String :=
  if isUsable s then "<set>" else s

/-- All usable passwords look the same. -/
theorem hide_of_isUsable {s : String} (usable : isUsable s = true) : hide s = "<set>" :=
  if_pos usable

theorem isUsable_set : isUsable "<set>" = true := by
  decide

theorem isUsable_hide (s : String) : isUsable (hide s) = isUsable s := by
  unfold hide
  split
  case isTrue usable => rw [usable, isUsable_set]
  case isFalse => rfl

theorem isUsable_eq_of_hide_eq {s s' : String} (same : hide s = hide s')
    : isUsable s = isUsable s' := by
  rw [← isUsable_hide s, same, isUsable_hide]

theorem isEmpty_hide (s : String) : (hide s).isEmpty = s.isEmpty := by
  unfold hide
  split
  case isTrue usable => rw [(isUsable_iff.1 usable).1, (isUsable_iff.1 isUsable_set).1]
  case isFalse => rfl

theorem hide_le_iff {s : String}
    : (hide s).utf8ByteSize ≤ credentialLimit ↔ s.utf8ByteSize ≤ credentialLimit := by
  unfold hide
  split
  case isTrue usable =>
    exact iff_of_true (isUsable_iff.1 isUsable_set).2 (isUsable_iff.1 usable).2
  case isFalse => rfl

/-- What can be seen of the answer to a look at the password. -/
def Lookup.hidden (lookup : Lookup) : Lookup :=
  lookup.map (Option.map hide)

namespace Credentials

/-- What can be seen of credentials. -/
def hidden (c : Credentials) : Credentials :=
  { c with password := hide c.password }

@[simp]
theorem ssid_hidden (c : Credentials) : c.hidden.ssid = c.ssid := rfl

@[simp]
theorem password_hidden (c : Credentials) : c.hidden.password = hide c.password := rfl

/-- The text for log lines tells no more of credentials than can be seen. -/
theorem describe_hidden (c : Credentials) : c.hidden.describe = c.describe := by
  unfold describe
  rw [ssid_hidden, password_hidden, isEmpty_hide]

/-- Stored passwords that look the same make credentials that do, by cases over whether they are
there and usable.
-/
theorem ofStored?_hidden {ssid password password' : Option String}
    (same : password.map hide = password'.map hide)
    : (ofStored? ssid password).map hidden = (ofStored? ssid password').map hidden := by
  cases password with
  | none =>
    obtain rfl := Option.map_eq_none_iff.1 same.symm
    rfl
  | some s =>
    obtain ⟨s', rfl, hides⟩ := Option.map_eq_some_iff.1 same.symm
    have usable : isUsable s = isUsable s' := isUsable_eq_of_hide_eq hides.symm
    unfold ofStored?
    cases ssid.filter isUsable with
    | none => rfl
    | some ssid =>
      rw [Option.filter_some, Option.filter_some, usable]
      cases isUsable s' with
      | true => exact congrArg (fun p => some (Credentials.mk ssid p)) hides.symm
      | false => rfl

end Credentials

end Provision

-----------------------------------------------------------------------------
-- Sites

open Provision

namespace Site

/-- What can be seen of a request to a site: no password. -/
def seen : Request → Request
  | .join credentials => .join credentials.hidden
  | r => r

/-- What can be seen of a request to a site and its answer. -/
def seenEvent : Event Site → Event Site
  | ⟨.join credentials, answer⟩ => ⟨.join credentials.hidden, answer⟩
  | ⟨.setting .password, answer⟩ => ⟨.setting .password, answer.hidden⟩
  | e => e

/-- The veil over the stored password. -/
def veil : Veil Site where
  Admits _ := True
  request := seen
  event := seenEvent
  request_event e := by
    obtain ⟨r, answer⟩ := e
    cases r with
    | setting key => cases key <;> rfl
    | _ => rfl

/-- Only the stored password has an answer of which not all can be seen. -/
theorem shows_of_ne {r : Request} (other : r ≠ .setting .password) : veil.Shows r := by
  refine ⟨trivial, fun a b same => ?_⟩
  cases r with
  | setting key =>
    cases key with
    | password => exact absurd rfl other
    | _ =>
      cases same
      rfl
  | _ =>
    cases same
    rfl

/-- Only requests to join look the same as others, by cases over the requests. -/
theorem eq_of_likens {r r' : Request} (likens : veil.Likens r r')
    : r = r' ∨ ∃ c c' : Credentials, c.hidden = c'.hidden ∧ r = .join c ∧ r' = .join c' := by
  have same : seen r = seen r' := likens.same
  cases r with
  | join c =>
    cases r' with
    | join c' => exact .inr ⟨c, c', Request.join.inj same, rfl, rfl⟩
    | _ => cases same
  | _ =>
    cases r' with
    | join c' => cases same
    | _ => exact .inl same

/-- Programs that look the same at a site wherever its answers do. -/
def Veiled {α : Type} (p : Program Site α) : Prop :=
  Twin veil Eq p p

theorem veiled_request {r : Request} (other : r ≠ .setting .password)
    : Veiled (Program.request (S := Site) r) :=
  .of_only (Program.Only.request_iff.2 (shows_of_ne other))

theorem veiled_say (level : Log.Level) (origin message : String)
    : Veiled (say level origin message) :=
  veiled_request nofun

theorem veiled_tolerate (level : Log.Level) (origin failure : String)
    (answer : Except Fault Unit)
    : Veiled (tolerate level origin failure answer) := by
  cases answer with
  | ok _ => exact .done rfl
  | error fault => exact veiled_say ..

end Site

open Site

-----------------------------------------------------------------------------
-- Joining

/-- What can be seen of credentials that have been looked up. -/
def Provision.Credentials.seen (loaded : Except Fault (Option Credentials))
    : Except Fault (Option Credentials) :=
  loaded.map (Option.map hidden)

/-- Credentials that look the same are described in the same way. -/
theorem Provision.Credentials.describe_eq_of_seen_eq
    {loaded loaded' : Except Fault (Option Credentials)} (same : seen loaded = seen loaded')
    : loaded.map (Option.map describe) = loaded'.map (Option.map describe) := by
  have describes (loaded : Except Fault (Option Credentials))
      : (seen loaded).map (Option.map describe) = loaded.map (Option.map describe) := by
    rcases loaded with fault | _ | credentials
    · rfl
    · rfl
    · exact congrArg (fun text => Except.ok (some text)) (describe_hidden credentials)
  rw [← describes loaded, same, describes]

/-- Looking up the credentials comes to some that look the same. The password is the second setting
that is looked up, and the only one of which not all can be seen.
-/
theorem Provision.Credentials.load_twin
    : Twin veil (fun loaded loaded' => seen loaded = seen loaded') (load Site.setting)
        (load Site.setting) := by
  have likens : veil.Likens (.setting .password) (.setting .password) := ⟨trivial, trivial, rfl⟩
  refine (veiled_request (r := .setting .ssid) nofun).bind_eq fun ssid => ?_
  cases ssid with
  | error fault => exact .done rfl
  | ok ssid =>
    refine (Twin.request likens).bind fun answer answer' same => ?_
    have hides : answer.hidden = answer'.hidden := eq_of_heq (Event.mk.inj same).2
    cases answer with
    | error fault =>
      cases answer' with
      | error fault' =>
        obtain rfl : fault = fault' := Except.error.inj hides
        exact .done rfl
      | ok => cases hides
    | ok password =>
      cases answer' with
      | error => cases hides
      | ok password' => exact .done (congrArg Except.ok (ofStored?_hidden (Except.ok.inj hides)))

namespace Joining

/-- Credentials that look the same are handed on, and what comes of it is told. -/
theorem attempt_veiled (isOnline : Bool) : Veiled (attempt isOnline) := by
  cases isOnline with
  | true => exact .done rfl
  | false =>
    refine Credentials.load_twin.bind fun loaded loaded' same => ?_
    rcases loaded with fault | _ | credentials
    case error =>
      cases loaded' with
      | error fault' =>
        obtain rfl : fault = fault' := Except.error.inj same
        exact (veiled_say ..).bind_eq fun _ => .done rfl
      | ok => cases same
    case ok.none =>
      rcases loaded' with fault' | _ | credentials'
      case ok.none => exact (veiled_say ..).bind_eq fun _ => .done rfl
      all_goals cases same
    case ok.some =>
      rcases loaded' with fault' | _ | credentials'
      case ok.some =>
        have hides : credentials.hidden = credentials'.hidden :=
          Option.some.inj (Except.ok.inj same)
        have ssid : credentials.ssid = credentials'.ssid :=
          show credentials.hidden.ssid = credentials'.hidden.ssid from congrArg _ hides
        dsimp only
        rw [ssid]
        refine (veiled_say ..).bind fun _ _ _ => ?_
        have likens : veil.Likens (.join credentials) (.join credentials') :=
          ⟨trivial, trivial, congrArg Site.Request.join hides⟩
        refine (Twin.request likens).bind fun answer answer' same => ?_
        obtain rfl : answer = answer' := eq_of_heq (Event.mk.inj same).2
        cases answer with
        | ok _ => exact (veiled_say ..).bind_eq fun _ => .done rfl
        | error _ => exact (veiled_say ..).bind_eq fun _ => .done rfl
      all_goals cases same

end Joining

-----------------------------------------------------------------------------
-- Rounds

namespace Cycle

theorem veiled_of_isEffort {p : Program Site (Except Fault Unit)} (isEffort : IsEffort p)
    : Veiled p := by
  cases isEffort with
  | count counter => exact veiled_request (r := .report (.count counter)) nofun
  | attempt record => exact veiled_request (r := .report (.attempt record)) nofun
  | notice event => exact veiled_request (r := .report (.notice event)) nofun
  | keepLog => exact veiled_request (r := .report .keepLog) nofun
  | mark reason => exact veiled_request (r := .mark reason) nofun

/-- All parts of a round look the same wherever the answers do. -/
theorem ofParts_veiled : OfParts Veiled where
  done _ := .done rfl
  bind first rest := first.bind_eq rest
  say := veiled_say
  ask isAsked := veiled_request (by cases isAsked <;> nofun)
  effort isEffort level failure :=
    (veiled_of_isEffort isEffort).bind_eq fun _ => veiled_tolerate level Step.origin failure _
  join := Joining.attempt_veiled

variable {S : Signature} {v : Veil S} {site : (r : Site.Request) → Program S (Site.Answer r)}
  {plan : Plan}

/-- What can be seen of a round. -/
def Passage.seen (v : Veil S) (passage : Passage S)
    : Cycle × List (Dealing S) × Result × Cycle :=
  (passage.before, v.dealings passage.events, passage.result, passage.after)

/-- As many rounds from the same state look the same if the surroundings answer alike. By induction
over the rounds: those behind the first one start from the same state again, and the surroundings
answer alike behind dealings that look the same.
-/
theorem Rounds.seen_eq {cycle last last' : Cycle} {one other : List (Passage S)}
    (twins : ∀ cycle, Twin v Eq (((round plan).run cycle).realize site)
      (((round plan).run cycle).realize site))
    (rounds : Rounds site plan cycle one last) (rounds' : Rounds site plan cycle other last')
    (length : one.length = other.length)
    (alike : AnswerAlike (v.dealings (one.flatMap Passage.events))
      (v.dealings (other.flatMap Passage.events)))
    : one.map (Passage.seen v) = other.map (Passage.seen v) ∧ last = last' := by
  induction rounds generalizing other with
  | none cycle =>
    cases rounds' with
    | none => exact ⟨rfl, rfl⟩
    | next => cases length
  | @next before _ _ _ _ _ first rest ih =>
    cases rounds' with
    | none => cases length
    | next first' rest' =>
      rw [List.flatMap_cons, List.flatMap_cons, Veil.dealings_append, Veil.dealings_append] at alike
      obtain ⟨equal, results⟩ := (twins before).agree first first' alike.before
      cases results
      rw [equal] at alike
      obtain ⟨others, rfl⟩ := ih rest' (Nat.succ.inj length) (alike.behind _)
      refine ⟨?_, rfl⟩
      rw [List.map_cons, List.map_cons, others, Passage.seen, Passage.seen, equal]

/-- Rounds at the site itself look the same if it answers alike. -/
theorem Rounds.agree_veiled {cycle last last' : Cycle} {one other : List (Passage Site)}
    (rounds : Rounds Site.ask plan cycle one last)
    (rounds' : Rounds Site.ask plan cycle other last') (length : one.length = other.length)
    (alike : AnswerAlike (Site.veil.dealings (one.flatMap Passage.events))
      (Site.veil.dealings (other.flatMap Passage.events)))
    : one.map (Passage.seen Site.veil) = other.map (Passage.seen Site.veil) ∧ last = last' := by
  have twins (cycle : Cycle)
      : Twin Site.veil Eq (((round plan).run cycle).realize Site.ask)
          (((round plan).run cycle).realize Site.ask) :=
    (ofParts_veiled.round plan cycle).realize fun _ _ likens => .request likens
  exact rounds.seen_eq twins rounds' length alike

end Cycle

end Caretaker
