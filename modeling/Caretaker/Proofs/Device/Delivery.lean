import Caretaker.Proofs.Device.Attempts
import Caretaker.Proofs.Device.Flash
import Caretaker.Proofs.Reset.Marker

/-!
The marker of a restart is delivered once. Whoever leaves markers and takes them away again, through
however many handles and however often the device boots between, a marker that is taken is the one
left last, and it is taken no second time, whichever calls to the store fail.
-/

namespace Caretaker.Device.Store

open Attempted Reset Text

-----------------------------------------------------------------------------
-- The store

/-- The bytes under the marker's key, if there are any. -/
abbrev Cell := Option (List UInt8)

/-- A request that has to do with the marker's key. -/
def Concerns : Request → Prop
  | .call (.write space key _) | .call (.erase space key) | .call (.readBytes space key _) =>
    space = ownSpace ∧ key = markerKey
  | _ => False

/-- What the store documents of the marker's key: writing replaces, reading gives what is there if
there is room for it, erasing deletes, and a call that fails changes nothing.
-/
inductive Serves : Cell → Event Platform → Cell → Prop where
  | written {cell : Cell} {text : String}
      : Serves cell ⟨.call (.write ownSpace markerKey text), .ok ()⟩ (some (toBytes text))
  | unwritten {cell : Cell} {text : String} {code : Code}
      : Serves cell ⟨.call (.write ownSpace markerKey text), .error code⟩ cell
  | read {cell : Cell} {room : Nat} (fits : ∀ bytes ∈ cell, bytes.length ≤ room)
      : Serves cell ⟨.call (.readBytes ownSpace markerKey room), .ok cell⟩ cell
  | unread {cell : Cell} {room : Nat} {code : Code}
      : Serves cell ⟨.call (.readBytes ownSpace markerKey room), .error code⟩ cell
  | erased {cell : Cell} : Serves cell ⟨.call (.erase ownSpace markerKey), .ok ()⟩ none
  | kept {cell : Cell} {code : Code}
      : Serves cell ⟨.call (.erase ownSpace markerKey), .error code⟩ cell
  | elsewhere {cell : Cell} {e : Event Platform} (other : ¬ Concerns e.request)
      : Serves cell e cell

section

variable {cell after : Cell}

theorem Serves.read_iff {room : Nat} {answer : Except Code (Option (List UInt8))}
    : Serves cell ⟨.call (.readBytes ownSpace markerKey room), answer⟩ after
      ↔ after = cell ∧ ((∃ code, answer = .error code)
        ∨ answer = .ok cell ∧ ∀ bytes ∈ cell, bytes.length ≤ room) := by
  constructor
  · intro serves
    cases serves with
    | read fits => exact ⟨rfl, .inr ⟨rfl, fits⟩⟩
    | unread => exact ⟨rfl, .inl ⟨_, rfl⟩⟩
    | elsewhere other => exact absurd ⟨rfl, rfl⟩ other
  · rintro ⟨rfl, ⟨code, rfl⟩ | ⟨rfl, fits⟩⟩
    · exact .unread
    · exact .read fits

theorem Serves.write_iff {text : String} {answer : Except Code Unit}
    : Serves cell ⟨.call (.write ownSpace markerKey text), answer⟩ after
      ↔ after = match answer with
        | .ok _ => some (toBytes text)
        | .error _ => cell := by
  constructor
  · intro serves
    cases serves with
    | written => rfl
    | unwritten => rfl
    | elsewhere other => exact absurd ⟨rfl, rfl⟩ other
  · rintro rfl
    cases answer
    · exact .unwritten
    · exact .written

theorem Serves.erase_iff {answer : Except Code Unit}
    : Serves cell ⟨.call (.erase ownSpace markerKey), answer⟩ after
      ↔ after = match answer with
        | .ok _ => none
        | .error _ => cell := by
  constructor
  · intro serves
    cases serves with
    | erased => rfl
    | kept => rfl
    | elsewhere other => exact absurd ⟨rfl, rfl⟩ other
  · rintro rfl
    cases answer
    · exact .kept
    · exact .erased

end

/-- The store serves events one after the other. -/
def ServesAll : Cell → List (Event Platform) → Cell → Prop
  | cell, [], after => after = cell
  | cell, e :: events, after => ∃ next, Serves cell e next ∧ ServesAll next events after

/-- A call to the store that failed. -/
def isFailed : Event Platform → Bool
  | ⟨.call (.write ..), .error _⟩ | ⟨.call (.erase ..), .error _⟩
  | ⟨.call (.readBytes ..), .error _⟩ => true
  | _ => false

-----------------------------------------------------------------------------
-- The scripted platform

theorem concerns_of_alters {request : Request} (alters : Alters ownSpace markerKey request)
    : Concerns request := by
  cases request with
  | call c =>
    cases c with
    | write | erase => exact ⟨alters.1.symm, alters.2.symm⟩
    | _ => exact alters.elim
  | _ => exact alters.elim

/-- A store that does what it documents serves the marker's key. -/
theorem Serves.of_flash {flash : Flash} {e : Event Platform} (tells : flash.Tells e)
    : Serves (flash ownSpace markerKey) e (flash.after e ownSpace markerKey) := by
  obtain ⟨request, answer⟩ := e
  by_cases concerns : Concerns request
  · cases request with
    | call c =>
      cases c with
      | write space key text =>
        obtain ⟨rfl, rfl⟩ := concerns
        cases answer with
        | ok => exact Serves.write_iff.2 Flash.set_self
        | error code => exact .unwritten
      | erase space key =>
        obtain ⟨rfl, rfl⟩ := concerns
        cases answer with
        | ok => exact Serves.erase_iff.2 Flash.set_self
        | error code => exact .kept
      | readBytes space key room =>
        obtain ⟨rfl, rfl⟩ := concerns
        cases answer with
        | ok content =>
          obtain ⟨rfl, fits⟩ := tells
          exact .read fits
        | error code => exact .unread
      | _ => exact concerns.elim
    | _ => exact concerns.elim
  · have unchanged : flash.after ⟨request, answer⟩ ownSpace markerKey = flash ownSpace markerKey :=
      Flash.after_apply fun alters => concerns (concerns_of_alters alters)
    rw [unchanged]
    exact .elsewhere concerns

/-- The bytes under the marker's key of a platform. -/
def cellOf (w : World) : Cell :=
  flashOf w ownSpace markerKey

/-- The scripted platform serves the marker's key as documented, whatever its script. By induction
over what is asked of it.
-/
theorem Scripted.serves {w last : World} {events : List (Event Platform)}
    (scripted : Scripted w events last)
    : ServesAll (cellOf w) events (cellOf last) := by
  induction scripted with
  | nil => rfl
  | next _ answered _ ih =>
    obtain ⟨tells, stored⟩ := flashOf_react answered
    rw [cellOf, stored] at ih
    exact ⟨_, .of_flash tells, ih⟩

-----------------------------------------------------------------------------
-- Acts

/-- What is done with markers. -/
inductive Act where
  /-- A marker was left, if that worked. -/
  | left (marker : Marker) (result : Except Failure Unit)
  /-- A marker was asked for, with or without a call that failed. -/
  | took (result : Except Failure (Option Marker)) (isSpoiled : Bool)
  /-- A boot looked for the restart before it. -/
  | recalled (result : Option Marker) (isSpoiled : Bool)
  /-- Anything else, from opening another handle to the next boot. -/
  | other

/-- The boot's question for the restart before it. -/
def lookBack : Program Platform (Option Marker) := do
  let taken ← faultOf takeMarker
  Reset.previous taken

/-- What is asked and answered in each act. -/
inductive Does : Act → List (Event Platform) → Prop where
  | leave {marker : Marker} {events : List (Event Platform)} {result : Except Failure Unit}
      (ran : Runs (leaveMarker marker).run events result)
      : Does (.left marker result) events
  | mark {reason : Reason} {uptime : UInt32} {events : List (Event Platform)}
      {result : Except Failure Unit}
      (ran : Runs (mark reason).run (⟨.now, uptime⟩ :: events) result)
      : Does (.left ⟨reason, uptime⟩ result) (⟨.now, uptime⟩ :: events)
  | take {events : List (Event Platform)} {result : Except Failure (Option Marker)}
      (ran : Runs takeMarker.run events result)
      : Does (.took result (events.any isFailed)) events
  | lookBack {events : List (Event Platform)} {result : Option Marker}
      (ran : Runs lookBack events result)
      : Does (.recalled result (events.any isFailed)) events
  | other {events : List (Event Platform)} (elsewhere : ∀ e ∈ events, ¬ Concerns e.request)
      : Does .other events

/-- A history from a store without marker: what was done, and what is under the marker's key. A
handle on the store is nothing but the right to ask, so acts through several of them are acts of
one history.
-/
inductive History : List Act → Cell → Prop where
  | fresh : History [] none
  | act {acts : List Act} {act : Act} {cell after : Cell} {events : List (Event Platform)}
      (before : History acts cell) (does : Does act events) (served : ServesAll cell events after)
      : History (acts ++ [act]) after

namespace Act

/-- The marker that an act left. -/
def stored? : Act → Option Marker
  | .left marker (.ok _) => some marker
  | _ => none

/-- The marker that an act took away. -/
def returned? : Act → Option Marker
  | .took (.ok (some marker)) _ | .recalled (some marker) _ => some marker
  | _ => none

/-- The marker that is there after an act, if `m?` was there before. -/
def after (m? : Option Marker) (act : Act) : Option Marker :=
  match act.stored?, act.returned? with
  | some marker, _ => some marker
  | none, some _ => none
  | none, none => m?

/-- What an act may come to where `m?` is there. -/
def Fits (m? : Option Marker) : Act → Prop
  | .took result isSpoiled =>
    if isSpoiled then ∃ failure, result = .error failure else result = .ok m?
  | .recalled result isSpoiled => result = if isSpoiled then none else m?
  | _ => True

end Act

/-- The marker left last, if it has not been taken. -/
def pending (acts : List Act) : Option Marker :=
  acts.foldl Act.after none

-----------------------------------------------------------------------------
-- One act

theorem leaveMarker_runs_iff {marker : Marker} {events : List (Event Platform)}
    {result : Except Failure Unit}
    : Runs (leaveMarker marker).run events result
      ↔ ∃ answer : Except Code Unit,
        events = [⟨.call (.write ownSpace markerKey marker.toJson), answer⟩]
        ∧ result = answer.mapError .platform := by
  rw [leaveMarker, write, trying_runs_iff]
  exact exists_congr fun answer => and_congr_left fun _ => Runs.request_iff (S := Platform)

/-- What the bytes under the marker's key say. -/
def deliveryOf (bytes : List UInt8) : Except Failure (Option Marker) :=
  match Marker.ofJson bytes with
  | .ok marker => .ok (some marker)
  | .error e => .error (.unreadable e)

theorem deliver_runs_iff {bytes : List UInt8} {events : List (Event Platform)}
    {result : Except Failure (Option Marker)}
    : Runs (match Marker.ofJson bytes with
        | .ok marker => (return some marker : Attempted (Option Marker))
        | .error e => throw (Failure.unreadable e)).run events result
      ↔ events = [] ∧ result = deliveryOf bytes := by
  unfold deliveryOf
  cases Marker.ofJson bytes <;> exact Runs.done_iff

/-- How a marker is taken from a store that serves as documented, with what is asked and answered,
what comes of it, and the bytes under the marker's key before and after it.
-/
inductive Takes
    : Cell → List (Event Platform) → Except Failure (Option Marker) → Cell → Prop where
  | unread (cell : Cell) (code : Code)
      : Takes cell [⟨.call (.readBytes ownSpace markerKey markerRoom), .error code⟩]
          (.error (.platform code)) cell
  | absent
      : Takes none [⟨.call (.readBytes ownSpace markerKey markerRoom), .ok none⟩] (.ok none) none
  | kept (bytes : List UInt8) (fits : bytes.length ≤ markerRoom) (code : Code)
      : Takes (some bytes)
          [⟨.call (.readBytes ownSpace markerKey markerRoom), .ok (some bytes)⟩,
            ⟨.call (.erase ownSpace markerKey), .error code⟩]
          (.error (.platform code)) (some bytes)
  | taken (bytes : List UInt8) (fits : bytes.length ≤ markerRoom)
      : Takes (some bytes)
          [⟨.call (.readBytes ownSpace markerKey markerRoom), .ok (some bytes)⟩,
            ⟨.call (.erase ownSpace markerKey), .ok ()⟩]
          (deliveryOf bytes) none

/-- A marker is taken by reading it and erasing it, unless there is none or a call fails. -/
theorem Takes.of_runs {cell after : Cell} {events : List (Event Platform)}
    {result : Except Failure (Option Marker)} (ran : Runs takeMarker.run events result)
    (served : ServesAll cell events after)
    : Takes cell events result after := by
  rw [takeMarker] at ran
  rcases call_bind_runs ran Runs.request_iff.1 with
    ⟨code, rfl, rfl⟩ | ⟨there, rest, rfl, looked⟩
  · obtain ⟨_, unread, rfl⟩ := served
    obtain ⟨rfl, -⟩ := Serves.read_iff.1 unread
    exact .unread _ code
  obtain ⟨_, read, served⟩ := served
  obtain ⟨rfl, ⟨_, ⟨⟩⟩ | ⟨⟨⟩, fits⟩⟩ := Serves.read_iff.1 read
  cases there with
  | none =>
    obtain ⟨rfl, rfl⟩ := Runs.done_iff.1 looked
    obtain rfl := served
    exact .absent
  | some bytes =>
    rcases call_bind_runs looked Runs.request_iff.1 with
      ⟨code, rfl, rfl⟩ | ⟨⟨⟩, rest, rfl, last⟩
    · obtain ⟨_, erase, rfl⟩ := served
      obtain rfl := Serves.erase_iff.1 erase
      exact .kept bytes (fits bytes rfl) code
    · obtain ⟨rfl, rfl⟩ := deliver_runs_iff.1 last
      obtain ⟨_, erase, rfl⟩ := served
      obtain rfl := Serves.erase_iff.1 erase
      exact .taken bytes (fits bytes rfl)

theorem Takes.runs {cell after : Cell} {events : List (Event Platform)}
    {result : Except Failure (Option Marker)} (takes : Takes cell events result after)
    : Runs takeMarker.run events result ∧ ServesAll cell events after := by
  rw [takeMarker, trying_bind_iff]
  cases takes with
  | unread _ code => exact ⟨.inl ⟨code, Runs.request_iff.2 rfl, rfl⟩, _, .unread, rfl⟩
  | absent =>
    exact ⟨.inr ⟨[_], [], none, rfl, Runs.request_iff.2 rfl, .done _⟩, _, .read nofun, rfl⟩
  | kept bytes fits code =>
    have there : ∀ b ∈ some bytes, b.length ≤ markerRoom := by
      rintro _ ⟨⟩
      exact fits
    refine ⟨.inr ⟨[_], [_], some bytes, rfl, Runs.request_iff.2 rfl, ?_⟩, _, .read there, _, .kept,
      rfl⟩
    exact trying_bind_iff.2 (.inl ⟨code, Runs.request_iff.2 rfl, rfl⟩)
  | taken bytes fits =>
    have there : ∀ b ∈ some bytes, b.length ≤ markerRoom := by
      rintro _ ⟨⟩
      exact fits
    refine ⟨.inr ⟨[_], [_], some bytes, rfl, Runs.request_iff.2 rfl, ?_⟩, _, .read there, _,
      .erased, rfl⟩
    refine trying_bind_iff.2 (.inr ⟨[_], [], (), rfl, Runs.request_iff.2 rfl, ?_⟩)
    exact deliver_runs_iff.2 ⟨rfl, rfl⟩

/-- What was stored for a marker. -/
abbrev stored (m? : Option Marker) : Cell :=
  m?.map fun marker => toBytes marker.toJson

theorem deliveryOf_toJson (marker : Marker)
    : deliveryOf (toBytes marker.toJson) = .ok (some marker) := by
  rw [deliveryOf, Marker.ofJson_toJson]

/-- Taking a marker away gives what is there, unless a call fails; then everything stays. -/
theorem takeMarker_step {m? : Option Marker} {events : List (Event Platform)}
    {result : Except Failure (Option Marker)} {cell : Cell}
    (ran : Runs takeMarker.run events result) (served : ServesAll (stored m?) events cell)
    : (events.any isFailed = true ∧ (∃ failure, result = .error failure) ∧ cell = stored m?)
      ∨ (events.any isFailed = false ∧ result = .ok m? ∧ cell = none) := by
  generalize there : stored m? = before at served ⊢
  cases Takes.of_runs ran served with
  | unread _ code => exact .inl ⟨rfl, ⟨_, rfl⟩, rfl⟩
  | absent =>
    obtain rfl := Option.map_eq_none_iff.1 there
    exact .inr ⟨rfl, rfl, rfl⟩
  | kept bytes fits code => exact .inl ⟨rfl, ⟨_, rfl⟩, rfl⟩
  | taken bytes fits =>
    obtain ⟨marker, rfl, rfl⟩ := Option.map_eq_some_iff.1 there
    exact .inr ⟨rfl, deliveryOf_toJson marker, rfl⟩

/-- What is not about the marker's key leaves it alone. -/
theorem Serves.of_elsewhere {cell after : Cell} {e : Event Platform} (serves : Serves cell e after)
    (elsewhere : ¬ Concerns e.request)
    : after = cell := by
  cases serves with
  | elsewhere => rfl
  | written | unwritten | read | unread | erased | kept => exact absurd ⟨rfl, rfl⟩ elsewhere

/-- What is not about the marker's key leaves it alone, by induction over the events. -/
theorem ServesAll.of_elsewhere {cell after : Cell} {events : List (Event Platform)}
    (served : ServesAll cell events after) (elsewhere : ∀ e ∈ events, ¬ Concerns e.request)
    : after = cell := by
  induction events generalizing cell with
  | nil => exact served
  | cons e events ih =>
    obtain ⟨next, serves, rest⟩ := served
    obtain rfl := serves.of_elsewhere (elsewhere e (by simp))
    exact ih rest fun e' member => elsewhere e' (.tail _ member)

theorem ServesAll.append_iff {cell after : Cell} {first second : List (Event Platform)}
    : ServesAll cell (first ++ second) after
      ↔ ∃ middle, ServesAll cell first middle ∧ ServesAll middle second after := by
  induction first generalizing cell with
  | nil => simp [ServesAll]
  | cons e first ih =>
    simp only [List.cons_append, ServesAll, ih]
    constructor
    · rintro ⟨next, serves, middle, head, tail⟩
      exact ⟨middle, ⟨next, serves, head⟩, tail⟩
    · rintro ⟨middle, ⟨next, serves, head⟩, tail⟩
      exact ⟨next, serves, middle, head, tail⟩

theorem says_runs {level : Log.Level} {origin message : String} {m? result : Option Marker}
    {events : List (Event Platform)}
    (ran : Runs (say (S := Platform) level origin message >>= fun _ => .done m?) events result)
    : result = m? ∧ ∀ e ∈ events, ∃ r, e.request = .report r := by
  obtain ⟨said, rfl⟩ := Runs.then_done_iff.1 ran
  have only : (say (S := Platform) level origin message).Only
      fun r => ∃ report, r = Request.report report :=
    Program.Only.request_iff.2 ⟨_, rfl⟩
  exact ⟨rfl, only.of_runs said⟩

/-- A boot tells what was taken, and says so in passing. -/
theorem previous_runs {taken : Except Fault (Option Marker)} {events : List (Event Platform)}
    {result : Option Marker} (ran : Runs (previous taken) events result)
    : result = taken.toOption.join ∧ ∀ e ∈ events, ∃ r, e.request = .report r := by
  unfold previous at ran
  rcases taken with fault | (_ | marker)
  · exact says_runs ran
  · obtain ⟨rfl, rfl⟩ := Runs.done_iff.1 ran
    exact ⟨rfl, by simp⟩
  · exact says_runs ran

theorem unconcerned_of_report {e : Event Platform} (isReport : ∃ r, e.request = .report r)
    : ¬ Concerns e.request ∧ isFailed e = false := by
  obtain ⟨request, answer⟩ := e
  obtain ⟨r, rfl⟩ := isReport
  exact ⟨nofun, rfl⟩

/-- Every act comes to what it may come to, and leaves what is there after it. -/
theorem Does.step {m? : Option Marker} {act : Act} {events : List (Event Platform)} {cell : Cell}
    (does : Does act events) (served : ServesAll (stored m?) events cell)
    : act.Fits m? ∧ cell = stored (act.after m?) := by
  cases does with
  | leave ran =>
    obtain ⟨answer, rfl, rfl⟩ := leaveMarker_runs_iff.1 ran
    obtain ⟨_, write, rfl⟩ := served
    obtain rfl := Serves.write_iff.1 write
    cases answer <;> exact ⟨trivial, rfl⟩
  | @mark reason uptime events _ ran =>
    obtain ⟨uptime', rest, same, ran⟩ := Runs.ask_iff.1 ran
    cases same
    obtain ⟨answer, rfl, rfl⟩ := leaveMarker_runs_iff.1 ran
    obtain ⟨_, clock, _, write, rfl⟩ := served
    obtain rfl := clock.of_elsewhere id
    obtain rfl := Serves.write_iff.1 write
    cases answer <;> exact ⟨trivial, rfl⟩
  | take ran =>
    rcases takeMarker_step ran served with ⟨spoiled, ⟨failure, rfl⟩, rfl⟩ | ⟨whole, rfl, rfl⟩
    · rw [spoiled]
      exact ⟨⟨failure, rfl⟩, rfl⟩
    · rw [whole]
      refine ⟨rfl, ?_⟩
      cases m? <;> rfl
  | lookBack ran =>
    obtain ⟨asked, told, taken, rfl, took, tells⟩ := Runs.bind_iff.1 ran
    obtain ⟨middle, servedFirst, servedRest⟩ := ServesAll.append_iff.1 served
    obtain ⟨rfl, reports⟩ := previous_runs tells
    obtain rfl := servedRest.of_elsewhere fun e member =>
      (unconcerned_of_report (reports e member)).1
    have unfailed : told.any isFailed = false := by
      rw [List.any_eq_false]
      exact fun e member => by simp [(unconcerned_of_report (reports e member)).2]
    obtain ⟨result, takes, rfl⟩ := Runs.bind_done_iff.1 took
    rw [List.any_append, unfailed, Bool.or_false]
    rcases takeMarker_step takes servedFirst with ⟨spoiled, ⟨failure, rfl⟩, rfl⟩ | ⟨whole, rfl, rfl⟩
    · rw [spoiled]
      exact ⟨rfl, rfl⟩
    · rw [whole]
      refine ⟨rfl, ?_⟩
      cases m? <;> rfl
  | other elsewhere =>
    exact ⟨trivial, served.of_elsewhere elsewhere⟩

-----------------------------------------------------------------------------
-- Histories

theorem pending_concat (acts : List Act) (act : Act)
    : pending (acts ++ [act]) = act.after (pending acts) := by
  simp [pending]

/-- Under the marker's key is the marker left last if it has not been taken, by induction over the
history.
-/
theorem History.cell_eq {acts : List Act} {cell : Cell} (history : History acts cell)
    : cell = stored (pending acts) := by
  induction history with
  | fresh => rfl
  | act _ does served ih =>
    subst ih
    rw [pending_concat]
    exact (does.step served).2

/-- An act that neither left nor took a marker. -/
def Act.IsQuiet (act : Act) : Prop :=
  act.stored? = none ∧ act.returned? = none

theorem Act.stored?_eq_some_iff {act : Act} {marker : Marker}
    : act.stored? = some marker ↔ act = .left marker (.ok ()) := by
  constructor
  · intro leaves
    match act with
    | .left m (.ok ()) =>
      cases leaves
      rfl
  · rintro rfl
    rfl

/-- Where the last of some acts stands if they are split at one of them. -/
theorem concat_eq_append_cons_iff {acts early late : List Act} {act at? : Act}
    : acts ++ [act] = early ++ at? :: late
      ↔ (late = [] ∧ acts = early ∧ act = at?)
        ∨ ∃ before, late = before ++ [act] ∧ acts = early ++ at? :: before := by
  constructor
  · intro same
    rcases List.eq_nil_or_concat' late with rfl | ⟨before, last, rfl⟩
    · obtain ⟨rfl, equal⟩ := List.append_inj' same rfl
      exact .inl ⟨rfl, rfl, (List.cons.inj equal).1⟩
    · rw [← List.cons_append, ← List.append_assoc] at same
      obtain ⟨rfl, equal⟩ := List.append_inj' same rfl
      exact .inr ⟨before, by rw [(List.cons.inj equal).1], rfl⟩
  · rintro (⟨rfl, rfl, rfl⟩ | ⟨before, rfl, rfl⟩)
    · rfl
    · simp

/-- A marker is pending if it was left and since then none was left or taken, by induction from the
last act.
-/
theorem pending_eq_some_iff {acts : List Act} {marker : Marker}
    : pending acts = some marker
      ↔ ∃ early late, acts = early ++ .left marker (.ok ()) :: late
        ∧ ∀ act ∈ late, act.IsQuiet := by
  induction acts using List.reverseRecOn with
  | nil => simp [pending]
  | append_singleton acts act ih =>
    rw [pending_concat, Act.after]
    simp only [concat_eq_append_cons_iff]
    constructor
    · intro there
      cases leaves : act.stored? with
      | some m =>
        rw [leaves] at there
        obtain rfl := Option.some.inj there
        exact ⟨acts, [], .inl ⟨rfl, rfl, Act.stored?_eq_some_iff.1 leaves⟩, by simp⟩
      | none =>
        cases returns : act.returned? with
        | some m =>
          rw [leaves, returns] at there
          cases there
        | none =>
          rw [leaves, returns] at there
          obtain ⟨early, late, rfl, quiet⟩ := ih.1 there
          refine ⟨early, late ++ [act], .inr ⟨late, rfl, rfl⟩, ?_⟩
          intro one member
          rcases List.mem_append.1 member with member | member
          · exact quiet one member
          · rw [List.mem_singleton.1 member]
            exact ⟨leaves, returns⟩
    · rintro ⟨early, late, ⟨rfl, rfl, rfl⟩ | ⟨before, rfl, rfl⟩, quiet⟩
      · rfl
      · obtain ⟨leaves, returns⟩ := quiet act (by simp)
        rw [leaves, returns]
        exact ih.2 ⟨early, before, rfl, fun one member => quiet one (by simp [member])⟩

/-- A marker that is taken was there. -/
theorem Act.Fits.of_returned {m? : Option Marker} {act : Act} {marker : Marker} (fits : act.Fits m?)
    (returns : act.returned? = some marker)
    : m? = some marker := by
  match act with
  | .took (.ok (some m)) isSpoiled =>
    cases isSpoiled with
    | true =>
      obtain ⟨failure, same⟩ := fits
      cases same
    | false =>
      cases fits
      exact returns
  | .recalled (some m) isSpoiled =>
    cases isSpoiled with
    | true => cases fits
    | false =>
      cases fits
      exact returns

/-- The markers that were taken are some of those that were left, in the same order, and the one
that is pending comes behind them. By induction over the history.
-/
theorem History.returned_sublist {acts : List Act} {cell : Cell} (history : History acts cell)
    : (acts.filterMap Act.returned? ++ (pending acts).toList).Sublist
        (acts.filterMap Act.stored?) := by
  induction history with
  | fresh => exact .slnil
  | @act acts act cell after events before does served ih =>
    rw [before.cell_eq] at served
    have fits := (does.step served).1
    rw [pending_concat, List.filterMap_append, List.filterMap_append, Act.after]
    cases leaves : act.stored? with
    | some m =>
      obtain rfl := Act.stored?_eq_some_iff.1 leaves
      have earlier := (List.sublist_append_left ..).trans ih
      have noReturn : (Act.left m (.ok ())).returned? = none := rfl
      simpa [noReturn, leaves] using earlier
    | none =>
      cases returns : act.returned? with
      | some m =>
        have there := fits.of_returned returns
        rw [there] at ih
        simpa [leaves, returns] using ih
      | none => simpa [leaves, returns] using ih

/-- Markers are delivered once. Whatever has been done with them since there was none, and whatever
failed, the marker that an act takes is the one left last, and none has been taken since then. An
act whose calls all succeed takes it if it is pending and finds none otherwise; a failed one that
leaves a marker changes nothing, and a boot whose calls fail goes on without one. Every marker fits
the room for reading it, and is read as it was written.
-/
theorem marker_delivered_once {acts : List Act} {act : Act} {cell after : Cell}
    {events : List (Event Platform)} (history : History acts cell) (does : Does act events)
    (served : ServesAll cell events after)
    : (∀ marker, pending acts = some marker
        ↔ ∃ early late, acts = early ++ .left marker (.ok ()) :: late
          ∧ ∀ act ∈ late, act.stored? = none ∧ act.returned? = none)
      ∧ (∀ marker, act.returned? = some marker → pending acts = some marker)
      ∧ (∀ result, act = .took result false → result = .ok (pending acts))
      ∧ (∀ marker failure, act = .left marker (.error failure) → after = cell)
      ∧ (∀ result, act = .recalled result true → result = none)
      ∧ (∀ result, act = .recalled result false → result = pending acts)
      ∧ ((acts ++ [act]).filterMap Act.returned?).Sublist
          ((acts ++ [act]).filterMap Act.stored?)
      ∧ ∀ marker : Marker, (toBytes marker.toJson).length ≤ 128
        ∧ Marker.ofJson (toBytes marker.toJson) = .ok marker := by
  have whole := history.act does served
  obtain rfl := history.cell_eq
  obtain ⟨fits, rfl⟩ := does.step served
  refine ⟨fun marker => pending_eq_some_iff, fun marker => fits.of_returned, ?_, ?_, ?_, ?_, ?_,
    fun marker => ⟨marker.length_toJson, marker.ofJson_toJson⟩⟩
  · rintro result rfl
    exact fits
  · rintro marker failure rfl
    rfl
  · rintro result rfl
    exact fits
  · rintro result rfl
    exact fits
  · exact (List.sublist_append_left ..).trans whole.returned_sublist

/-- A platform that fails to write a marker for the first time. -/
def reluctant : World :=
  { setting := { fails := [("nvs_set:reboot", .inTurn [-1])] } }

/-- Where a marker could not be left and the next one was, the second one is taken. -/
theorem marker_delivered_once_stuck
    : let acts : List Act :=
        [.left ⟨.firmwareUpdate, 3⟩ (.error (.platform ⟨-1⟩)), .left ⟨.stuckTask, 5⟩ (.ok ())]
      ∃ cell taking, History acts cell
        ∧ Does (.took (.ok (some ⟨.stuckTask, 5⟩)) false) taking
        ∧ ServesAll cell taking none
        ∧ pending acts = some ⟨.stuckTask, 5⟩ := by
  intro acts
  let marker : Marker := ⟨.stuckTask, 5⟩
  have scripted : Scripted reluctant
      [⟨.call (.write ownSpace markerKey (Marker.toJson ⟨.firmwareUpdate, 3⟩)), .error ⟨-1⟩⟩,
        ⟨.call (.write ownSpace markerKey marker.toJson), .ok ()⟩] _ :=
    .next 0 rfl (.next 0 rfl (.nil _))
  obtain ⟨_, unwritten, _, written, -⟩ := scripted.serves
  obtain rfl := Serves.write_iff.1 written
  have left : History [acts[0]] _ :=
    .act .fresh (.leave (leaveMarker_runs_iff.2 ⟨_, rfl, rfl⟩)) ⟨_, unwritten, rfl⟩
  have leftAgain : History acts _ :=
    .act left (.leave (leaveMarker_runs_iff.2 ⟨_, rfl, rfl⟩)) ⟨_, written, rfl⟩
  obtain ⟨took, served⟩ := (Takes.taken (toBytes marker.toJson) marker.length_toJson).runs
  rw [deliveryOf_toJson] at took
  have takes := Does.take took
  have delivered := marker_delivered_once leftAgain takes served
  exact ⟨_, _, leftAgain, takes, served, delivered.2.1 marker rfl⟩

end Caretaker.Device.Store
