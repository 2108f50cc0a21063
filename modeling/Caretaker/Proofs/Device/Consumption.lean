import Caretaker.Proofs.Device.Delivery

/-!
What becomes of a marker that cannot be read. While the store works, looking for the marker erases
any bytes that there is room for, whatever they say. Bytes that there is no room for are never
erased, and every look complains about them again.
-/

namespace Caretaker.Device.Store

open Reset Text

-----------------------------------------------------------------------------
-- A store that works

/-- A call that has to do with the marker's key works, unless it looks at bytes that there is no
room for.
-/
def Works (cell : Cell) (e : Event Platform) : Prop :=
  Concerns e.request → isFailed e = true
    → ∃ bytes room, cell = some bytes ∧ room < bytes.length
      ∧ e.request = .call (.readBytes ownSpace markerKey room)

/-- The store serves events one after the other, and works at each of them. -/
structure WorksAll (cell : Cell) (events : List (Event Platform)) (after : Cell) : Prop where
  served : ServesAll cell events after
  works : ∀ before e rest middle, events = before ++ e :: rest → ServesAll cell before middle
    → Works middle e

variable {cell after : Cell} {events : List (Event Platform)}

/-- Where a store works, it works up to any point. -/
theorem WorksAll.before {first second : List (Event Platform)} {middle : Cell}
    (whole : WorksAll cell (first ++ second) after) (served : ServesAll cell first middle)
    : WorksAll cell first middle := by
  refine ⟨served, fun before e rest next split reached => ?_⟩
  exact whole.works before e (rest ++ second) next (by simp [split]) reached

/-- A store whose calls all succeed works. -/
theorem WorksAll.of_unfailed (served : ServesAll cell events after)
    (unfailed : events.any isFailed = false)
    : WorksAll cell events after := by
  refine ⟨served, ?_⟩
  rintro before e rest middle rfl - - failed
  simp [failed] at unfailed

theorem ServesAll.of_reports {told : List (Event Platform)}
    (reports : ∀ e ∈ told, ∃ r, e.request = .report r)
    : ServesAll cell told cell := by
  induction told with
  | nil => rfl
  | cons e told ih =>
    obtain ⟨first, rest⟩ := List.forall_mem_cons.1 reports
    exact ⟨cell, .elsewhere (unconcerned_of_report first).1, ih rest⟩

/-- A store that does not give bytes that there is no room for works. -/
theorem WorksAll.of_long {bytes : List UInt8} (long : markerRoom < bytes.length) (code : Code)
    {told : List (Event Platform)} (reports : ∀ e ∈ told, ∃ r, e.request = .report r)
    : WorksAll (some bytes)
        (⟨.call (.readBytes ownSpace markerKey markerRoom), .error code⟩ :: told) (some bytes) := by
  refine ⟨⟨some bytes, .unread, ServesAll.of_reports reports⟩, ?_⟩
  intro before e rest middle split reached _ failed
  cases before with
  | nil =>
    obtain ⟨rfl, -⟩ := List.cons.inj split
    obtain rfl := reached
    exact ⟨bytes, markerRoom, rfl, long, rfl⟩
  | cons first before =>
    have behind : e ∈ told := by simp [(List.cons.inj split).2]
    cases failed.symm.trans (unconcerned_of_report (reports e behind)).2

-----------------------------------------------------------------------------
-- Looks

/-- A line in the log about a marker that could not be read. -/
def isComplaint : Event Platform → Bool
  | ⟨.report (.say record), _⟩ => record.level == .warn && record.path == some "reboot"
  | _ => false

/-- What comes of a look for the marker: the marker that was found, and whether a bad one was
reported.
-/
structure Sight where
  found : Option Marker
  isBad : Bool

/-- What there is to see where a marker was taken. -/
def Sight.of : Except Failure (Option Marker) → Sight
  | .ok m? => ⟨m?, false⟩
  | .error _ => ⟨none, true⟩

/-- Ways to look for the marker, with what is asked and answered. A marker is taken, where a bad one
is an error, or a boot looks back, where it is a complaint.
-/
inductive Looks : List (Event Platform) → Sight → Prop where
  | take {events : List (Event Platform)} {result : Except Failure (Option Marker)}
      (ran : Runs takeMarker.run events result)
      : Looks events (.of result)
  | lookBack {events : List (Event Platform)} {m? : Option Marker} (ran : Runs lookBack events m?)
      : Looks events ⟨m?, events.any isComplaint⟩

/-- Looks for the marker one after the other, however often the device boots between, from the bytes
under the marker's key up to those that are there in the end.
-/
inductive Views : Cell → List Sight → Cell → Prop where
  | nil (cell : Cell) : Views cell [] cell
  | cons {cell next after : Cell} {events : List (Event Platform)} {sight : Sight}
      {sights : List Sight} (looks : Looks events sight) (works : WorksAll cell events next)
      (rest : Views next sights after)
      : Views cell (sight :: sights) after

/-- What a look comes to, and what it leaves. -/
def view : Cell → Sight × Cell
  | none => (⟨none, false⟩, none)
  | some bytes =>
    if bytes.length ≤ markerRoom then (.of (deliveryOf bytes), none) else (⟨none, true⟩, some bytes)

/-- Where the store works, taking the marker empties its key exactly if there is room for what is
under it, and nothing is said about it.
-/
theorem takeMarker_view {result : Except Failure (Option Marker)}
    (ran : Runs takeMarker.run events result) (works : WorksAll cell events after)
    : (Sight.of result, after) = view cell ∧ events.any isComplaint = false := by
  cases Takes.of_runs ran works.served with
  | unread _ code =>
    obtain ⟨bytes, room, rfl, long, same⟩ := works.works [] _ [] cell rfl rfl ⟨rfl, rfl⟩ rfl
    cases same
    exact ⟨by rw [view, if_neg (Nat.not_le.2 long)]; rfl, rfl⟩
  | absent => exact ⟨rfl, rfl⟩
  | kept bytes fits code =>
    have there : ∀ b ∈ some bytes, b.length ≤ markerRoom := by
      rintro _ ⟨⟩
      exact fits
    obtain ⟨_, _, -, -, same⟩ := works.works [_] _ [] (some bytes) rfl ⟨_, .read there, rfl⟩
      ⟨rfl, rfl⟩ rfl
    cases same
  | taken bytes fits => exact ⟨by rw [view, if_pos fits], rfl⟩

/-- A boot complains just if the marker could not be taken. -/
theorem previous_complains {result : Except Failure (Option Marker)} {m? : Option Marker}
    (ran : Runs (previous (result.mapError fun failure => ⟨failure.text⟩)) events m?)
    : (⟨m?, events.any isComplaint⟩ : Sight) = .of result := by
  rcases result with failure | (_ | marker)
  · obtain ⟨said, rfl⟩ := Runs.then_done_iff.1 ran
    obtain rfl := Runs.request_iff.1 said
    rfl
  · obtain ⟨rfl, rfl⟩ := Runs.done_iff.1 ran
    rfl
  · obtain ⟨said, rfl⟩ := Runs.then_done_iff.1 ran
    obtain rfl := Runs.request_iff.1 said
    rfl

/-- Every look comes to the same, whoever looks. -/
theorem Looks.view_eq {sight : Sight} (looks : Looks events sight)
    (works : WorksAll cell events after)
    : (sight, after) = view cell := by
  cases looks with
  | take ran => exact (takeMarker_view ran works).1
  | lookBack ran =>
    obtain ⟨taking, telling, taken, rfl, took, told⟩ := Runs.bind_iff.1 ran
    obtain ⟨middle, served, rest⟩ := ServesAll.append_iff.1 works.served
    have reports := (previous_runs told).2
    obtain rfl := rest.of_elsewhere fun e member => (unconcerned_of_report (reports e member)).1
    obtain ⟨result, takes, rfl⟩ := Runs.bind_done_iff.1 took
    obtain ⟨same, silent⟩ := takeMarker_view takes (works.before served)
    rw [List.any_append, silent, Bool.false_or, previous_complains told]
    exact same

/-- Where there is nothing to see, there is nothing to see later on, by induction over the looks. -/
theorem Views.of_none {sights : List Sight} (views : Views none sights after)
    : after = none ∧ ∀ sight ∈ sights, sight = ⟨none, false⟩ := by
  generalize empty : (none : Cell) = before at views
  induction views with
  | nil cell => exact ⟨rfl, by simp⟩
  | cons looks works rest ih =>
    subst empty
    obtain ⟨rfl, rfl⟩ := Prod.mk.inj (looks.view_eq works)
    obtain ⟨rfl, later⟩ := ih rfl
    exact ⟨rfl, List.forall_mem_cons.2 ⟨rfl, later⟩⟩

/-- Bytes that there is no room for stay, and are complained about by every look. By induction over
the looks.
-/
theorem Views.of_long {bytes : List UInt8} (long : markerRoom < bytes.length) {sights : List Sight}
    (views : Views (some bytes) sights after)
    : after = some bytes ∧ ∀ sight ∈ sights, sight = ⟨none, true⟩ := by
  generalize there : some bytes = before at views
  induction views with
  | nil cell => exact ⟨rfl, by simp⟩
  | cons looks works rest ih =>
    subst there
    have same := looks.view_eq works
    rw [view, if_neg (Nat.not_le.2 long)] at same
    obtain ⟨rfl, rfl⟩ := Prod.mk.inj same
    obtain ⟨rfl, later⟩ := ih rfl
    exact ⟨rfl, List.forall_mem_cons.2 ⟨rfl, later⟩⟩

/-- Where the store works, the first look at the bytes under the marker's key erases them if and
only if there is room for them. Then it finds what they say, or reports that they say nothing, and
no later look finds or reports anything. Longer bytes stay for ever, and every look finds nothing
and reports them.
-/
theorem erased_iff_room {bytes : List UInt8} {next : Cell} {sight : Sight} {later : List Sight}
    (looks : Looks events sight) (works : WorksAll (some bytes) events next)
    (views : Views next later after)
    : (next = none ↔ bytes.length ≤ markerRoom)
      ∧ (bytes.length ≤ markerRoom
        → sight = .of (deliveryOf bytes) ∧ after = none ∧ ∀ s ∈ later, s = ⟨none, false⟩)
      ∧ (markerRoom < bytes.length
        → after = some bytes ∧ ∀ s ∈ sight :: later, s = ⟨none, true⟩) := by
  have same := looks.view_eq works
  rw [view] at same
  by_cases fits : bytes.length ≤ markerRoom
  · rw [if_pos fits] at same
    obtain ⟨rfl, rfl⟩ := Prod.mk.inj same
    refine ⟨iff_of_true rfl fits, fun _ => ⟨rfl, views.of_none⟩, fun long => ?_⟩
    exact absurd fits (Nat.not_le.2 long)
  · rw [if_neg fits] at same
    obtain ⟨rfl, rfl⟩ := Prod.mk.inj same
    refine ⟨iff_of_false nofun fits, fun short => absurd short fits, fun long => ?_⟩
    exact Views.of_long long (.cons looks works views)

theorem erased_iff_room_garbled
    : Sight.of (deliveryOf [1]) = ⟨none, true⟩
      ∧ ∃ taking booting, Looks taking (.of (deliveryOf [1])) ∧ WorksAll (some [1]) taking none
        ∧ Looks booting ⟨none, false⟩ ∧ WorksAll none booting none := by
  obtain ⟨took, served⟩ := (Takes.taken [1] (by decide)).runs
  have looks := Looks.take took
  have works := WorksAll.of_unfailed served rfl
  obtain ⟨tookAgain, servedAgain⟩ := Takes.absent.runs
  have booted : Runs lookBack _ none :=
    Runs.bind_iff.2 ⟨_, [], _, rfl, Runs.bind_done_iff.2 ⟨_, tookAgain, rfl⟩, .done _⟩
  have looksAgain := Looks.lookBack booted
  have worksAgain := WorksAll.of_unfailed servedAgain rfl
  have views := Views.cons looksAgain worksAgain (.nil none)
  obtain ⟨-, erases, -⟩ := erased_iff_room looks works views
  obtain ⟨-, -, nothing⟩ := erases (by decide)
  have blind := nothing _ (List.mem_singleton_self _)
  have garbled : (deliveryOf [1]).toBool = false := by decide +kernel
  refine ⟨?_, _, _, looks, works, blind ▸ looksAgain, worksAgain⟩
  cases said : deliveryOf [1] with
  | ok m? => simp [said, Except.toBool] at garbled
  | error failure => rfl

/-- Bytes that there is no room for are there again at the next boot, which complains about them as
well.
-/
theorem stays_of_long {bytes : List UInt8} (long : markerRoom < bytes.length)
    : ∃ taking booting failure, Runs takeMarker.run taking (.error failure)
      ∧ WorksAll (some bytes) taking (some bytes)
      ∧ Runs lookBack booting none
      ∧ booting.any isComplaint = true
      ∧ WorksAll (some bytes) booting (some bytes) := by
  let failure : Failure := .platform .invalidLength
  let complaint : Event Platform :=
    ⟨.report (.say ⟨.warn, some "reboot", "Failed to read reboot marker: " ++ failure.text⟩), ()⟩
  have took := (Takes.unread (some bytes) .invalidLength).runs.1
  have taken : Runs (faultOf takeMarker) _ (.error ⟨failure.text⟩) :=
    Runs.bind_done_iff.2 ⟨_, took, rfl⟩
  have told : Runs (previous (.error ⟨failure.text⟩)) [complaint] none := by
    unfold previous
    exact Runs.then_done_iff.2 ⟨Runs.request_iff.2 rfl, rfl⟩
  have booted : Runs lookBack _ none := Runs.bind_iff.2 ⟨_, [complaint], _, rfl, taken, told⟩
  have reports : ∀ e ∈ [complaint], ∃ r, e.request = .report r := by simp [complaint]
  have stays := WorksAll.of_long long .invalidLength (List.forall_mem_nil _)
  have staysOn := WorksAll.of_long long .invalidLength reports
  exact ⟨_, _, failure, took, stays, booted, rfl, staysOn⟩

theorem long_marker_stays
    : let cell : Cell := some (.replicate 129 0)
      ∃ taking booting failure, Runs takeMarker.run taking (.error failure)
        ∧ WorksAll cell taking cell
        ∧ Runs lookBack booting none
        ∧ booting.any isComplaint = true
        ∧ WorksAll cell booting cell :=
  stays_of_long (by simp [markerRoom])

end Caretaker.Device.Store
