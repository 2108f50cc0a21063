import Caretaker.Proofs.Cycle.Course

/-!
Rounds in a row, and what can be seen of them. A view picks some of the requests of a round
together with their answers. It overlooks the background, which may come anywhere in a round, so
what it sees of a course is computed part by part.
-/

namespace Caretaker

variable {S : Signature}

-----------------------------------------------------------------------------
-- Rounds in a row

namespace Cycle

/-- One round: the cycle before and after it, what was asked, and the result. -/
structure Passage (S : Signature) where
  before : Cycle
  events : List (Event S)
  result : Result
  after : Cycle

/-- Rounds in a row at a site, from one state of the cycle to another. -/
inductive Rounds (site : (r : Site.Request) → Program S (Site.Answer r)) (plan : Plan)
    : Cycle → List (Passage S) → Cycle → Prop where
  | none (cycle : Cycle) : Rounds site plan cycle [] cycle
  | next {before after last : Cycle} {events : List (Event S)} {result : Result}
      {passages : List (Passage S)}
      (first : Runs (((round plan).run before).realize site) events (result, after))
      (rest : Rounds site plan after passages last)
      : Rounds site plan before (⟨before, events, result, after⟩ :: passages) last

/-- Rounds that start without an open attempt never have one between them, and each of them takes
a course, met by the site. By induction over the rounds.
-/
theorem Rounds.courses {site : (r : Site.Request) → Program S (Site.Answer r)} {plan : Plan}
    {cycle last : Cycle} {passages : List (Passage S)} (h : Rounds site plan cycle passages last)
    (closed : cycle.attempt.startedAt = Option.none)
    : last.attempt.startedAt = Option.none
      ∧ ∀ passage ∈ passages,
        passage.before.attempt.startedAt = Option.none
        ∧ passage.after.attempt.startedAt = Option.none
        ∧ ∃ asked, Runs ((round plan).run passage.before) asked (passage.result, passage.after)
          ∧ Course plan asked passage.result ∧ Met site asked passage.events := by
  induction h with
  | none cycle => exact ⟨closed, by simp⟩
  | next first _ ih =>
    obtain ⟨asked, ran, met⟩ := Runs.realize_iff.1 first
    obtain ⟨course, between⟩ := round_course closed ran
    obtain ⟨ended, others⟩ := ih between
    refine ⟨ended, ?_⟩
    intro passage member
    rcases List.mem_cons.1 member with rfl | member
    · exact ⟨closed, between, asked, ran, course, met⟩
    · exact others passage member

end Cycle

namespace Site

/-- A request to the site itself is met by making it. -/
theorem met_ask_iff {asked events : List (Event Site)} : Met ask asked events ↔ events = asked := by
  constructor
  · intro h
    induction h with
    | nil => rfl
    | cons head _ ih =>
      rw [Runs.request_iff.1 head, ih]
      rfl
  · intro same
    subst same
    induction events with
    | nil => exact .nil
    | cons e events ih => exact .cons (Runs.request_iff.2 rfl) ih

/-- A site that is online, finds the same in every look and installs it in the same way. Its clock
stands still, it knows no network, and its store never fails.
-/
def steady (finding : Finding) (installation : Installation) : (r : Request) → Answer r
  | .now => 0
  | .report (.say _) => ()
  | .report (.count _) | .report (.attempt _) | .report (.notice _) | .report .keepLog => .ok ()
  | .isOnline => true
  | .setting _ => .ok none
  | .join _ => .error ⟨"no network"⟩
  | .check => finding
  | .install _ => installation
  | .light _ => ()
  | .mark _ => .ok ()
  | .restart _ => ()

end Site

/-- The first round at a site that answers the same whenever it is asked the same. -/
def Cycle.Passage.first (answer : (r : Site.Request) → Site.Answer r) (plan : Plan)
    : Passage Site :=
  let (events, result, after) := ((round plan).run {}).follow answer
  ⟨{}, events, result, after⟩

theorem Cycle.Rounds.first (answer : (r : Site.Request) → Site.Answer r) (plan : Plan)
    : Rounds Site.ask plan {} [.first answer plan] (Passage.first answer plan).after :=
  .next (Runs.realize_iff.2 ⟨_, .follow _ _, Site.met_ask_iff.2 rfl⟩) (.none _)

/-- The first round at a site that never changes. -/
def Cycle.Passage.steady (finding : Finding) (installation : Installation) (plan : Plan)
    : Passage Site :=
  let (events, result, after) := ((round plan).run {}).follow (Site.steady finding installation)
  ⟨{}, events, result, after⟩

theorem Cycle.Rounds.steady {finding : Finding} {installation : Installation} {plan : Plan}
    : Rounds Site.ask plan {} [.steady finding installation plan]
        (Passage.steady finding installation plan).after :=
  .first (Site.steady finding installation) plan

namespace Site

-----------------------------------------------------------------------------
-- The background

/-- The requests in joining a network: its settings, the join, and what is said about it. -/
def IsJoining : Request → Prop
  | .report (.say record) => record.path = some Joining.origin
  | .setting _ | .join _ => True
  | _ => False

/-- The requests that may come anywhere in a round: what is said, what is counted, and those in
joining a network.
-/
def IsBackground : Request → Prop
  | .report (.say _) | .report (.count _) | .setting _ | .join _ => True
  | _ => False

/-- The requests that are made in settling an outcome. -/
def IsSettling : Request → Prop
  | .now | .report _ | .light _ => True
  | _ => False

theorem IsJoining.isBackground {r : Request} (h : IsJoining r) : IsBackground r := by
  cases r with
  | report report => cases report <;> trivial
  | setting | join => trivial
  | _ => exact h

end Site

namespace Joining

/-- An attempt to join asks nothing but what belongs to it. -/
theorem attempt_only (isOnline : Bool) : (attempt isOnline).Only Site.IsJoining := by
  have load_only : (Provision.Credentials.load Site.setting).Only Site.IsJoining := by
    refine .bind (Program.Only.request_iff.2 trivial) fun ssid => ?_
    cases ssid with
    | error fault => trivial
    | ok ssid =>
      refine .bind (Program.Only.request_iff.2 trivial) fun password => ?_
      cases password <;> trivial
  cases isOnline with
  | true => trivial
  | false =>
    refine .bind load_only fun loaded => ?_
    rcases loaded with fault | _ | credentials
    · exact .bind (Program.Only.request_iff.2 rfl) fun _ => trivial
    · exact .bind (Program.Only.request_iff.2 rfl) fun _ => trivial
    · refine .bind (Program.Only.request_iff.2 rfl) fun _ => ?_
      refine .bind (Program.Only.request_iff.2 trivial) fun answer => ?_
      cases answer <;> exact .bind (Program.Only.request_iff.2 rfl) fun _ => trivial

end Joining

-----------------------------------------------------------------------------
-- Views

/-- A way to look at the events of a round that overlooks the background. -/
structure View (α : Type) where
  see : Event Site → Option α
  overlooks : ∀ e, Site.IsBackground e.request → see e = none

namespace View

open Site Caretaker.Cycle Step

variable {α : Type} (view : View α)

/-- What is seen of some events. -/
def of (events : List (Event Site)) : List α :=
  events.filterMap view.see

@[simp]
theorem of_nil : view.of [] = [] := rfl

@[simp]
theorem of_cons (e : Event Site) (events : List (Event Site))
    : view.of (e :: events) = (view.see e).toList ++ view.of events := by
  rw [of, List.filterMap_cons]
  cases view.see e <;> rfl

@[simp]
theorem of_append (first second : List (Event Site))
    : view.of (first ++ second) = view.of first ++ view.of second :=
  List.filterMap_append

theorem of_background {events : List (Event Site)}
    (background : ∀ e ∈ events, IsBackground e.request)
    : view.of events = [] :=
  List.filterMap_eq_nil_iff.2 fun e member => view.overlooks e (background e member)

@[simp]
theorem see_said (level : Log.Level) (origin message : String)
    : view.see (said level origin message) = none :=
  view.overlooks _ trivial

@[simp]
theorem of_complaint (level : Log.Level) (origin failure : String) (answer : Except Fault Unit)
    : view.of (complaint level origin failure answer) = [] := by
  cases answer <;> simp [complaint]

@[simp]
theorem of_tallied (counter : Counter) (answer : Except Fault Unit)
    : view.of (tallied counter answer) = [] := by
  simp [tallied, view.overlooks ⟨.report (.count counter), answer⟩ trivial]

@[simp]
theorem of_checkTallied (plan : Plan) (outcome : Outcome) (answer : Except Fault Unit)
    : view.of (checkTallied plan outcome answer) = [] := by
  unfold checkTallied
  split <;> simp

@[simp]
theorem of_codeRemark (code : Int32) : view.of (Outcome.codeRemark code) = [] := by
  unfold Outcome.codeRemark
  split <;> simp

/-- Of the opening of a round only the questions whether the site is online can be seen. -/
theorem of_opening {plan : Plan} {online : Bool} {events : List (Event Site)}
    (opens : Opening plan online events)
    : ∃ before : List Bool,
        view.of events
          = before.flatMap (fun b => (view.see ⟨.isOnline, b⟩).toList)
            ++ (view.see ⟨.isOnline, online⟩).toList := by
  cases opens with
  | direct counted _ _ => exact ⟨[], by simp⟩
  | joining counted before _ _ ran =>
    have unseen := view.of_background fun e member =>
      (Program.Only.of_runs ran (Joining.attempt_only before) e member).isBackground
    exact ⟨[before], by simp [unseen]⟩

theorem of_opening_of_blind {plan : Plan} {online : Bool} {events : List (Event Site)}
    (opens : Opening plan online events) (blind : ∀ b, view.see ⟨.isOnline, b⟩ = none)
    : view.of events = [] := by
  obtain ⟨before, seen⟩ := view.of_opening opens
  rw [seen, blind, Option.toList_none, List.append_nil, List.flatMap_eq_nil_iff]
  intro b _
  rw [blind, Option.toList_none]

/-- Whoever is blind to whether the site is online sees nothing of a round until it has opened. -/
theorem of_behind {plan : Plan} {online : Bool} {opening rest : List (Event Site)}
    (opens : Opening plan online opening) (blind : ∀ b, view.see ⟨.isOnline, b⟩ = none)
    : view.of (opening ++ rest) = view.of rest := by
  rw [of_append, view.of_opening_of_blind opens blind, List.nil_append]

@[simp]
theorem of_looked (finding : Finding)
    : view.of (looked finding) = (view.see ⟨.check, finding⟩).toList := by
  simp [looked]

@[simp]
theorem of_foundEvents (release : Release) (time : Stamp)
    : view.of (foundEvents release time)
      = (view.see ⟨.light .blue, ()⟩).toList ++ (view.see ⟨.now, time⟩).toList := by
  simp [foundEvents, begun, Attempt.begunLine]

@[simp]
theorem of_ended (record : Attempt.Record) (handedIn : Except Fault Unit)
    : view.of (ended record handedIn)
      = (view.see ⟨.now, record.endedAt⟩).toList
        ++ (view.see ⟨.report (.attempt record), handedIn⟩).toList := by
  simp [ended, Attempt.endedLine]

@[simp]
theorem of_partingEvents (record : Attempt.Record) (handedIn marked : Except Fault Unit)
    : view.of (partingEvents record handedIn marked)
      = view.of (ended record handedIn) ++ (view.see ⟨.mark .firmwareUpdate, marked⟩).toList := by
  simp [partingEvents]

@[simp]
theorem of_installedEvents (record : Attempt.Record) (handedIn marked : Except Fault Unit)
    : view.of (installedEvents record handedIn marked)
      = view.of (partingEvents record handedIn marked)
        ++ (view.see ⟨.restart .firmwareUpdate, ()⟩).toList := by
  simp [installedEvents]

@[simp]
theorem of_failedEvents (code : Int32) (ending : List (Event Site))
    (noticed kept : Except Fault Unit)
    : view.of (failedEvents code ending noticed kept)
      = view.of ending ++ (view.see ⟨.report (.notice (.failure code)), noticed⟩).toList
        ++ (view.see ⟨.report .keepLog, kept⟩).toList ++ (view.see ⟨.light .red, ()⟩).toList := by
  simp [failedEvents]

@[simp]
theorem of_putOffEvents (record : Attempt.Record) (handedIn : Except Fault Unit)
    : view.of (putOffEvents record handedIn) = view.of (ended record handedIn) := by
  simp [putOffEvents]

/-- Whoever is blind to what is asked in settling an outcome sees nothing of it. -/
theorem of_settling {plan : Plan} {outcome : Outcome} {startedAt : Option Stamp}
    {settling : List (Event Site)} (settles : Settling plan outcome startedAt settling)
    (blind : ∀ e, IsSettling e.request → view.see e = none)
    : view.of settling = [] := by
  have unread (time : Stamp) : view.see ⟨.now, time⟩ = none := blind _ trivial
  have untold (report : Report) (answer : report.Answer)
      : view.see ⟨.report report, answer⟩ = none := blind _ trivial
  have unlit (lamp : Lamp) : view.see ⟨.light lamp, ()⟩ = none := blind _ trivial
  cases settles <;> simp [unread, untold, unlit]

/-- Whoever is blind to all but the look sees of a round that is settled what is seen of the look.
-/
theorem of_settled {plan : Plan} {outcome : Outcome} {startedAt : Option Stamp}
    {opening looking settling : List (Event Site)} (opens : Opening plan true opening)
    (settles : Settling plan outcome startedAt settling)
    (unasked : ∀ b, view.see ⟨.isOnline, b⟩ = none)
    (blind : ∀ e, IsSettling e.request → view.see e = none)
    : view.of (opening ++ looking ++ settling) = view.of looking := by
  rw [List.append_assoc, view.of_behind opens unasked, of_append, view.of_settling settles blind,
    List.append_nil]

/-- The readings of the clock. -/
def readings : View Stamp where
  see
    | ⟨.now, time⟩ => some time
    | _ => none
  overlooks e background := by
    obtain ⟨r, answer⟩ := e
    cases r with
    | now => exact background.elim
    | _ => rfl

/-- The records of attempts that are handed in. -/
def records : View Attempt.Record where
  see
    | ⟨.report (.attempt record), _⟩ => some record
    | _ => none
  overlooks e background := by
    obtain ⟨r, answer⟩ := e
    cases r with
    | report report =>
      cases report with
      | attempt record => exact background.elim
      | _ => rfl
    | _ => rfl

/-- The answers to whether the site is online. -/
def onlines : View Bool where
  see
    | ⟨.isOnline, online⟩ => some online
    | _ => none
  overlooks e background := by
    obtain ⟨r, answer⟩ := e
    cases r with
    | isOnline => exact background.elim
    | _ => rfl

/-- The answers to whether there is a release. -/
def findings : View Finding where
  see
    | ⟨.check, finding⟩ => some finding
    | _ => none
  overlooks e background := by
    obtain ⟨r, answer⟩ := e
    cases r with
    | check => exact background.elim
    | _ => rfl

theorem findings_blind (e : Event Site) (settling : IsSettling e.request)
    : findings.see e = none := by
  obtain ⟨r, answer⟩ := e
  cases r with
  | check => exact settling.elim
  | _ => rfl

/-- The releases that are to be installed, and how that goes. -/
def installations : View (Release × Installation) where
  see
    | ⟨.install release, installation⟩ => some (release, installation)
    | _ => none
  overlooks e background := by
    obtain ⟨r, answer⟩ := e
    cases r with
    | install release => exact background.elim
    | _ => rfl

/-- The reasons for which a restart is asked for. -/
def restarts : View Reset.Reason where
  see
    | ⟨.restart reason, _⟩ => some reason
    | _ => none
  overlooks e background := by
    obtain ⟨r, answer⟩ := e
    cases r with
    | restart reason => exact background.elim
    | _ => rfl

theorem mem_installations_iff {events : List (Event Site)} {release : Release}
    {installation : Installation}
    : (release, installation) ∈ installations.of events
      ↔ ⟨.install release, installation⟩ ∈ events := by
  rw [of, List.mem_filterMap]
  constructor
  · intro h
    obtain ⟨⟨r, answer⟩, member, seen⟩ := h
    cases r with
    | install => cases seen; exact member
    | _ => cases seen
  · intro member
    exact ⟨_, member, rfl⟩

theorem mem_restarts_iff {events : List (Event Site)} {reason : Reset.Reason}
    : reason ∈ restarts.of events ↔ ⟨.restart reason, ()⟩ ∈ events := by
  rw [of, List.mem_filterMap]
  constructor
  · intro h
    obtain ⟨⟨r, answer⟩, member, seen⟩ := h
    cases r with
    | restart => cases seen; exact member
    | _ => cases seen
  · intro member
    exact ⟨_, member, rfl⟩

end View

end Caretaker
