import Caretaker.Proofs.Cycle.Restart
import Caretaker.Proofs.Provision.Credentials

/-!
What a round asks of the network before it looks for a release. It may try to join the network
first, but only the last answer to whether the site is online decides how it goes on: nothing else
that came of the attempt makes a difference.
-/

namespace Caretaker

-----------------------------------------------------------------------------
-- Requests about the network

namespace Site

/-- Whether a request is about the network: whether there is a connection, what is stored about
one, and joining it.
-/
def isContact : Request → Bool
  | .isOnline | .setting _ | .join _ => true
  | _ => false

/-- The requests about the network among some events, with their answers. -/
def contacts (events : List (Event Site)) : List (Event Site) :=
  events.filter fun e => isContact e.request

theorem mem_contacts_iff {e : Event Site} {events : List (Event Site)}
    : e ∈ contacts events ↔ e ∈ events ∧ isContact e.request = true :=
  List.mem_filter

@[simp]
theorem contacts_nil : contacts [] = [] := rfl

@[simp]
theorem contacts_append (first second : List (Event Site))
    : contacts (first ++ second) = contacts first ++ contacts second :=
  List.filter_append ..

@[simp]
theorem contacts_cons (e : Event Site) (events : List (Event Site))
    : contacts (e :: events)
      = if isContact e.request then e :: contacts events else contacts events :=
  List.filter_cons

@[simp]
theorem isContact_said {level : Log.Level} {origin message : String}
    : isContact (said level origin message).request = false := rfl

@[simp]
theorem contacts_complaint {level : Log.Level} {origin failure : String}
    {answer : Except Fault Unit}
    : contacts (complaint level origin failure answer) = [] := by
  cases answer <;> simp [complaint]

/-- A site that is not online although its network can be joined. Each setting is its own name. -/
def unreachable : (r : Request) → Answer r
  | .isOnline => false
  | .setting key => .ok (some key.name)
  | .join _ => .ok ()
  | r => steady .nothing .staged r

end Site

namespace Cycle

open Site Step

variable {plan : Plan}

@[simp]
theorem contacts_tallied {counter : Counter} {answer : Except Fault Unit}
    : contacts (tallied counter answer) = [] := by
  simp [tallied, isContact]

@[simp]
theorem contacts_checkTallied {outcome : Outcome} {answer : Except Fault Unit}
    : contacts (checkTallied plan outcome answer) = [] := by
  unfold checkTallied
  split <;> simp

@[simp]
theorem contacts_codeRemark {code : Int32} : contacts (Outcome.codeRemark code) = [] := by
  unfold Outcome.codeRemark
  split <;> simp

@[simp]
theorem contacts_ended {record : Attempt.Record} {handedIn : Except Fault Unit}
    : contacts (ended record handedIn) = [] := by
  simp [ended, Attempt.endedLine, isContact, said]

theorem contacts_looking {outcome : Option Outcome} {startedAt : Option Stamp}
    {events : List (Event Site)} (looks : Looking plan events outcome startedAt)
    : contacts events = [] := by
  cases looks <;>
    simp [looked, foundEvents, begun, installedEvents, partingEvents, Attempt.begunLine, isContact,
      said]

theorem contacts_settling {outcome : Outcome} {startedAt : Option Stamp}
    {events : List (Event Site)} (settles : Settling plan outcome startedAt events)
    : contacts events = [] := by
  cases settles <;> simp [failedEvents, putOffEvents, isContact, said]

end Cycle

-----------------------------------------------------------------------------
-- An attempt to join

namespace Joining

open Site Provision

/-- What an attempt to join asks about the network: nothing if there is a connection. The name is
read first, the password only if the name could be read, and the network is joined only if both are
there and usable.
-/
inductive Approach : Bool → List (Event Site) → Prop where
  | needless : Approach true []
  | unnamed (fault : Fault) : Approach false [⟨.setting .ssid, .error fault⟩]
  | unspelled (ssid : Option String) (fault : Fault)
      : Approach false [⟨.setting .ssid, .ok ssid⟩, ⟨.setting .password, .error fault⟩]
  | unusable (ssid password : Option String)
      (lacking : ∀ c : Credentials,
        c.IsUsable → ¬ (ssid = some c.ssid ∧ password = some c.password))
      : Approach false [⟨.setting .ssid, .ok ssid⟩, ⟨.setting .password, .ok password⟩]
  | joined (c : Credentials) (usable : c.IsUsable) (answer : Except Fault Unit)
      : Approach false
          [⟨.setting .ssid, .ok (some c.ssid)⟩, ⟨.setting .password, .ok (some c.password)⟩,
            ⟨.join c, answer⟩]

/-- Every attempt to join goes in one of these ways, by cases over what is stored. -/
theorem approach_of_runs {before : Bool} {way : List (Event Site)} {joining : Joining}
    (ran : Runs (attempt before) way joining)
    : Approach before (contacts way) := by
  cases before with
  | true =>
    obtain ⟨rfl, rfl⟩ := Runs.done_iff.1 ran
    exact .needless
  | false =>
    obtain ⟨looking, rest, loaded, rfl, load, going⟩ := Runs.bind_iff.1 ran
    cases Credentials.loading_iff.1 load with
    | unnamed failed =>
      obtain rfl := Runs.request_iff.1 failed
      obtain ⟨rfl, rfl⟩ := say_then_runs_iff.1 going
      exact .unnamed _
    | unspelled named failed =>
      obtain rfl := Runs.request_iff.1 named
      obtain rfl := Runs.request_iff.1 failed
      obtain ⟨rfl, rfl⟩ := say_then_runs_iff.1 going
      exact .unspelled _ _
    | @looked _ _ ssid password named spelled =>
      obtain rfl := Runs.request_iff.1 named
      obtain rfl := Runs.request_iff.1 spelled
      cases made : Credentials.ofStored? ssid password with
      | none =>
        rw [made] at going
        obtain ⟨rfl, rfl⟩ := say_then_runs_iff.1 going
        refine .unusable _ _ fun c usable stored => ?_
        rw [Credentials.ofStored?_eq_some_iff_isUsable.2 ⟨usable, stored⟩] at made
        cases made
      | some c =>
        obtain ⟨usable, rfl, rfl⟩ := Credentials.ofStored?_eq_some_iff_isUsable.1 made
        rw [made] at going
        obtain ⟨line, rest, ⟨⟩, rfl, told, behind⟩ := Runs.bind_iff.1 going
        obtain rfl := say_runs_iff.1 told
        obtain ⟨asking, rest, answer, rfl, asked, last⟩ := Runs.bind_iff.1 behind
        obtain rfl := Runs.request_iff.1 asked
        cases answer <;>
          obtain ⟨rfl, rfl⟩ := say_then_runs_iff.1 last <;>
          exact .joined c usable _

end Joining

-----------------------------------------------------------------------------
-- The gate

namespace Cycle

open Site Step View

variable {plan : Plan} {online : Bool}

/-- What a round asks about the network. If there is no network to join it asks once whether the
site is online, and otherwise before and after an attempt to join.
-/
inductive Contacting (plan : Plan) (online : Bool) : List (Event Site) → Prop where
  | direct (alone : (plan.policy.joins && plan.hasNetwork) = false)
      : Contacting plan online [⟨.isOnline, online⟩]
  | joining (joins : (plan.policy.joins && plan.hasNetwork) = true) (before : Bool)
      {way : List (Event Site)} (approach : Joining.Approach before way)
      : Contacting plan online (⟨.isOnline, before⟩ :: way ++ [⟨.isOnline, online⟩])

/-- A network is joined if and only if the site is not online at first and what is then read as its
name and its password can be used. It is the network of this name, with this password.
-/
theorem Contacting.join_mem_iff {asked : List (Event Site)}
    (contacting : Contacting plan online asked) (c : Provision.Credentials)
    : (∃ answer, ⟨.join c, answer⟩ ∈ asked)
      ↔ c.IsUsable
        ∧ [⟨.isOnline, false⟩, ⟨.setting .ssid, .ok (some c.ssid)⟩,
            ⟨.setting .password, .ok (some c.password)⟩] <+: asked := by
  cases contacting with
  | direct alone => simp
  | joining joins before approach =>
    cases approach with
    | needless => simp
    | unnamed fault => simp
    | unspelled ssid fault => simp
    | unusable ssid password lacking =>
      refine iff_of_false (by simp) ?_
      rintro ⟨usable, began⟩
      have stored : ssid = some c.ssid ∧ password = some c.password := by
        simpa [eq_comm] using began
      exact lacking c usable stored
    | joined c' usable answer =>
      constructor
      · rintro ⟨answer', member⟩
        have same : c = c' := by
          simp at member
          exact member.1
        subst same
        exact ⟨usable, by simp⟩
      · rintro ⟨-, began⟩
        have same : c.ssid = c'.ssid ∧ c.password = c'.password := by
          simpa using began
        obtain rfl : c = c' := by
          cases c
          cases c'
          simpa using same
        exact ⟨answer, by simp⟩

theorem Opening.contacting {opening : List (Event Site)} (opens : Opening plan online opening)
    : Contacting plan online (contacts opening) := by
  cases opens with
  | direct counted _ alone =>
    rw [contacts_append, contacts_tallied]
    exact .direct alone
  | joining counted before _ joins ran =>
    have way : Contacting plan online _ :=
      .joining joins before (Joining.approach_of_runs ran)
    simpa [isContact] using way

/-- Behind any opening a round goes on as the last answer to whether the site is online tells. -/
theorem Opening.runs_iff {α : Type} {next : Bool → Step α} {cycle : Cycle} {result : α × Cycle}
    {opening rest : List (Event Site)} (opens : Opening plan online opening)
    : Runs
        ((do
          tally .rounds
          if plan.policy.joins && plan.hasNetwork then
            let _ ← site do Joining.attempt (← Site.isOnline)
          let online ← site Site.isOnline
          next online : Step α).run cycle)
        (opening ++ rest) result
      ↔ Runs ((next online).run cycle) rest result := by
  cases opens with
  | direct counted _ alone =>
    rw [alone, if_neg Bool.false_ne_true, List.append_assoc, Runs.state_bind_iff_of runs_tallied]
    exact Runs.state_bind_iff_of (request_runs_iff.2 ⟨rfl, rfl⟩)
  | @joining counted before _ way joining joins ran =>
    have attempted
        : Runs (do Joining.attempt (← Site.isOnline)) (⟨.isOnline, before⟩ :: way) joining :=
      Runs.bind_iff.2 ⟨[_], way, before, rfl, Runs.request_iff.2 rfl, ran⟩
    rw [joins, if_pos rfl, List.append_assoc, List.append_assoc,
      Runs.state_bind_iff_of runs_tallied,
      Runs.state_bind_iff_of (site_runs_iff.2 ⟨attempted, rfl⟩)]
    exact Runs.state_bind_iff_of (request_runs_iff.2 ⟨rfl, rfl⟩)

/-- A round that opened in another way, with the same last answer to whether the site is online,
goes on in the same way.
-/
theorem Opening.exchange {cycle : Cycle} {result : Result × Cycle}
    {opening other rest : List (Event Site)} (opens : Opening plan online opening)
    (opensToo : Opening plan online other)
    (ran : Runs ((round plan).run cycle) (opening ++ rest) result)
    : Runs ((round plan).run cycle) (other ++ rest) result :=
  opensToo.runs_iff.2 (opens.runs_iff.1 ran)

/-- What is asked in a round that is not online. -/
def skipped : List (Event Site) :=
  [said .debug origin "No connectivity, skipping OTA check", ⟨.light .red, ()⟩]

theorem Looking.length_findings {looking : List (Event Site)} {outcome : Option Outcome}
    {startedAt : Option Stamp} (looks : Looking plan looking outcome startedAt)
    : (findings.of looking).length = 1 := by
  cases looks <;> simp [findings]

/-- A round asks nothing about the network once it has opened. It looks for a release exactly once
if the site is online and otherwise not at all. By cases over its course.
-/
theorem Course.gated {asked : List (Event Site)} {result : Result}
    (course : Course plan asked result)
    : ∃ online opening rest, asked = opening ++ rest ∧ Opening plan online opening
      ∧ contacts rest = []
      ∧ (findings.of asked).length = online.toNat
      ∧ (online = false → result = .offline ∧ rest = skipped) := by
  cases course with
  | @offline opening opens =>
    refine ⟨false, opening, _, rfl, opens, ?_, ?_, fun _ => ⟨rfl, rfl⟩⟩
    · simp [isContact, said]
    · rw [findings.of_behind opens fun _ => rfl]
      simp [findings, said]
  | @settled opening looking settling _ _ opens looks settles =>
    refine ⟨true, opening, looking ++ settling, List.append_assoc .., opens, ?_, ?_,
      fun offline => ?_⟩
    · rw [contacts_append, contacts_looking looks, contacts_settling settles, List.append_nil]
    · rw [findings.of_settled opens settles (fun _ => rfl) findings_blind, looks.length_findings]
      rfl
    · cases offline
  | @restarting opening looking opens looks =>
    refine ⟨true, opening, looking, rfl, opens, contacts_looking looks, ?_, fun offline => ?_⟩
    · rw [findings.of_behind opens fun _ => rfl, looks.length_findings]
      rfl
    · cases offline

/-- In rounds from the first one on, a round asks once whether the site is online if there is no
network to join. Otherwise it asks before and after an attempt to join, which goes in one of its
ways: a network is joined if and only if the first answer is no and what is then read as its name
and its password can be used, and it is this network. It looks for a release, exactly once, if and
only if the last answer is yes. Otherwise it shows red and is over. Nothing but the last answer
decides how it goes on: any other opening of the round with this answer is followed by the same.
-/
theorem last_answer_decides {passages : List (Passage Site)} {last : Cycle}
    (rounds : Rounds Site.ask plan {} passages last)
    : ∀ passage ∈ passages, ∃ online opening rest,
        passage.events = opening ++ rest
        ∧ Opening plan online opening
        ∧ Contacting plan online (contacts passage.events)
        ∧ (∀ c : Provision.Credentials,
          (∃ answer, ⟨.join c, answer⟩ ∈ passage.events)
            ↔ c.IsUsable
              ∧ [⟨.isOnline, false⟩, ⟨.setting .ssid, .ok (some c.ssid)⟩,
                  ⟨.setting .password, .ok (some c.password)⟩] <+: contacts passage.events)
        ∧ (findings.of passage.events).length = online.toNat
        ∧ (online = false → passage.result = .offline ∧ rest = skipped)
        ∧ ∀ other, Opening plan online other
          → Runs ((round plan).run passage.before) (other ++ rest)
              (passage.result, passage.after) := by
  intro passage member
  obtain ⟨-, -, asked, ran, course, met⟩ := (rounds.courses rfl).2 passage member
  obtain rfl := Site.met_ask_iff.1 met
  obtain ⟨online, opening, rest, whole, opens, uncontacted, looked, stopped⟩ := course.gated
  have contacting : Contacting plan online (contacts passage.events) := by
    rw [whole, contacts_append, uncontacted, List.append_nil]
    exact opens.contacting
  refine ⟨online, opening, rest, whole, opens, contacting, ?_, looked, stopped, ?_⟩
  · intro c
    rw [← contacting.join_mem_iff]
    refine exists_congr fun answer => ?_
    rw [mem_contacts_iff]
    exact (and_iff_left rfl).symm
  · intro other opensToo
    exact opens.exchange opensToo (whole ▸ ran)

theorem last_answer_decides_unreachable
    : let c : Provision.Credentials := ⟨"wifi_ssid", "wifi_password"⟩
      let passage := Passage.first Site.unreachable ⟨{}, true⟩
      Rounds Site.ask ⟨{}, true⟩ {} [passage] passage.after
      ∧ (∃ answer, ⟨.join c, answer⟩ ∈ passage.events)
      ∧ passage.result = .offline := by
  intro c passage
  obtain ⟨online, _, _, -, -, -, joined, looked, stopped, -⟩ :=
    last_answer_decides (.first Site.unreachable ⟨{}, true⟩) passage (List.mem_singleton_self _)
  refine ⟨.first _ _, (joined c).2 ⟨?_, ?_⟩, ?_⟩
  · refine ⟨⟨?_, ?_⟩, ?_, ?_⟩ <;> decide
  · exact ⟨_, rfl⟩
  · cases online with
    | false => exact (stopped rfl).1
    | true => cases looked

end Cycle

end Caretaker
