import Caretaker.Proofs.Cycle.Turns
import Caretaker.Proofs.Rehearsal.Scenes

/-!
A cycle by itself that rehearses the play of the server. The play stands still while the site is
offline and goes on by a scene in each round that is online, so the fourth of these rounds comes to
the last scene, which ends the cycle.
-/

namespace Caretaker.Rehearsal

open Caretaker.Cycle Site View

variable {plan : Plan} {asked : List (Event Site)}
  {free : List (Event Stage) → (r : Request) → Answer r}

-----------------------------------------------------------------------------
-- Rounds

/-- Whether the site was online when it mattered to a round: the last answer to this decides. -/
def isOnline (passage : Passage Stage) : Bool :=
  (onlines.of (siteEvents passage.events)).getLast? == some true

/-- What some rounds asked of the server. -/
def servedIn (passages : List (Passage Stage)) : List (Event Site) :=
  passages.flatMap fun passage => served passage.events

/-- What some rounds told the store apart from that there were so many. -/
def toldIn (passages : List (Passage Stage)) : List Report :=
  passages.flatMap fun passage => tidings (siteEvents passage.events)

/-- A round that is offline leaves the play where it is, and one that is online plays the next
scene.
-/
theorem round_plays {passage : Passage Stage} {world last : World}
    (wanted : plan.policy.downloads = true) (counts : plan.policy.countsChecks = true)
    (course : Course plan (siteEvents passage.events) passage.result)
    (performs : Performs world (served passage.events) last) (early : world.asked < 4)
    : (isOnline passage = false ∧ passage.result = .offline ∧ last = world
        ∧ served passage.events = [] ∧ tidings (siteEvents passage.events) = [])
      ∨ (isOnline passage = true ∧ last.asked = world.asked + 1
        ∧ Scene world.asked (served passage.events) (tidings (siteEvents passage.events))
            passage.result) := by
  obtain ⟨online, decided, turnout⟩ := course.turnout wanted
  have same : isOnline passage = online := by
    rw [isOnline, decided]
    cases online <;> rfl
  rw [same, course.tidings]
  rw [served] at performs ⊢
  cases online with
  | false =>
    generalize servings.of (siteEvents passage.events) = asked at turnout performs
    generalize records.of (siteEvents passage.events) = handedIn at turnout
    generalize passage.result = result at turnout
    cases turnout
    exact .inl ⟨rfl, rfl, Performs.nil_iff.1 performs, rfl, rfl⟩
  | true =>
    obtain ⟨scene, moved⟩ := Scene.of_turnout counts turnout performs early
    exact .inr ⟨rfl, moved, scene⟩

/-- Rounds that go on play as many scenes as were online, and not the last one. By induction over
the rounds.
-/
theorem rounds_play {passages : List (Passage Stage)} {world last : World}
    (wanted : plan.policy.downloads = true) (counts : plan.policy.countsChecks = true)
    (courses : ∀ passage ∈ passages, Course plan (siteEvents passage.events) passage.result)
    (go : ∀ passage ∈ passages, passage.result ≠ .restarting)
    (performs : Performs world (servedIn passages) last) (early : world.asked < 4)
    : last.asked = world.asked + passages.countP isOnline ∧ last.asked < 4
      ∧ Scenes world.asked last.asked (servedIn passages) (toldIn passages) := by
  induction passages generalizing world with
  | nil =>
    rw [Performs.nil_iff.1 performs]
    exact ⟨rfl, early, .none _⟩
  | cons passage passages ih =>
    obtain ⟨course, courses⟩ := List.forall_mem_cons.1 courses
    obtain ⟨goes, go⟩ := List.forall_mem_cons.1 go
    rw [servedIn, List.flatMap_cons] at performs ⊢
    rw [toldIn, List.flatMap_cons, List.countP_cons]
    obtain ⟨middle, performed, rest⟩ := Performs.append_iff.1 performs
    rcases round_plays wanted counts course performed early with
      ⟨offline, -, rfl, unserved, untold⟩ | ⟨online, moved, scene⟩
    · rw [offline, unserved, untold]
      exact ih courses go rest early
    · -- Only the last scene restarts, so one that goes on leaves a scene to come.
      have notLast : world.asked ≠ 3 := mt scene.restarting_iff.2 goes
      have still : middle.asked < 4 := by omega
      obtain ⟨counted, within, scenes⟩ := ih courses go rest still
      rw [moved] at counted scenes
      refine ⟨?_, within, .next scene scenes⟩
      rw [counted, online, if_pos rfl]
      omega

-----------------------------------------------------------------------------
-- Runs of the cycle

/-- Rounds with a pause behind each of them ask nothing else of the site, by induction over them. -/
theorem siteEvents_of_paced {passages : List (Passage Stage)} {events : List (Event Stage)}
    (paced : Paced plan passages events)
    : siteEvents events = passages.flatMap fun passage => siteEvents passage.events := by
  induction paced with
  | none => rfl
  | next pause _ ih =>
    rw [siteEvents_append, siteEvents_append, siteEvents_pause pause, ih, List.append_nil,
      List.flatMap_cons]

/-- In rounds from the first one on, each of them takes its course at the site. -/
theorem courses_of_rounds {passages : List (Passage Stage)} {last : Cycle}
    (rounds : Rounds atSite plan {} passages last)
    : ∀ passage ∈ passages, Course plan (siteEvents passage.events) passage.result := by
  obtain ⟨-, each⟩ := rounds.courses rfl
  intro passage member
  obtain ⟨-, -, asked, -, course, met⟩ := each passage member
  rw [siteEvents_of_met met]
  exact course

theorem exists_say {r : Site.Request} (saying : isSaying r = true)
    : ∃ record, r = .report (.say record) := by
  cases r with
  | report report =>
    cases report with
    | say record => exact ⟨record, rfl⟩
    | _ => cases saying
  | _ => cases saying

/-- What is asked of the site is what some rounds ask, with nothing but lines around them. -/
def Frames (passages : List (Passage Stage)) (asked : List (Event Site)) : Prop :=
  ∃ opening closing : List (Event Site),
    (∀ e ∈ opening ++ closing, isSaying e.request = true)
    ∧ asked = opening ++ passages.flatMap (siteEvents ·.events) ++ closing

namespace Frames

variable {passages : List (Passage Stage)}

/-- Whoever overlooks what is said sees what there is to see in the rounds. -/
theorem filterMap {β : Type} (frames : Frames passages asked) (see : Event Site → Option β)
    (overlooks : ∀ e, isSaying e.request = true → see e = none)
    : asked.filterMap see
      = passages.flatMap fun passage => (siteEvents passage.events).filterMap see := by
  obtain ⟨opening, closing, lines, rfl⟩ := frames
  obtain ⟨before, behind⟩ := List.forall_mem_append.1 lines
  have unseen (events : List (Event Site)) (saying : ∀ e ∈ events, isSaying e.request = true)
      : events.filterMap see = [] :=
    List.filterMap_eq_nil_iff.2 fun e member => overlooks e (saying e member)
  rw [List.filterMap_append, List.filterMap_append, unseen _ before, unseen _ behind,
    List.nil_append, List.append_nil, List.filterMap_flatMap]

theorem of_view {β : Type} (frames : Frames passages asked) (view : View β)
    : view.of asked = passages.flatMap fun passage => view.of (siteEvents passage.events) := by
  refine frames.filterMap view.see fun e saying => view.overlooks e ?_
  obtain ⟨record, same⟩ := exists_say saying
  rw [same]
  trivial

theorem deposits (frames : Frames passages asked)
    : Event.deposits asked
      = passages.flatMap fun passage => Event.deposits (siteEvents passage.events) := by
  refine frames.filterMap Event.deposit? fun e saying => ?_
  obtain ⟨record, same⟩ := exists_say saying
  rw [Event.deposit?, same]
  rfl

/-- Rounds report themselves as often as there are rounds. -/
theorem count_rounds (frames : Frames passages asked)
    (each : ∀ passage ∈ passages,
      (Event.deposits (siteEvents passage.events)).count (.count .rounds) = 1)
    : (Event.deposits asked).count (.count .rounds) = passages.length := by
  calc (Event.deposits asked).count (.count .rounds)
      = (passages.map fun passage =>
          (Event.deposits (siteEvents passage.events)).count (.count .rounds)).sum := by
        rw [frames.deposits, List.count_flatMap]
        rfl
    _ = (passages.map fun _ => 1).sum := by rw [List.map_congr_left each]
    _ = passages.length := by rw [List.map_const', List.sum_replicate_nat, Nat.mul_one]

theorem tidings (frames : Frames passages asked)
    : Cycle.tidings asked = toldIn passages := by
  rw [Cycle.tidings, frames.deposits, List.filter_flatMap]
  rfl

theorem calls (frames : Frames passages asked)
    : Cycle.calls asked
      = passages.flatMap fun passage => Cycle.calls (siteEvents passage.events) := by
  have seen := frames.filterMap (Option.guard fun e => !isSaying e.request) fun e saying => by
    simp [saying]
  simp only [List.filterMap_eq_filter] at seen
  exact seen

end Frames

theorem frames_of_goesOn {passages : List (Passage Stage)} {opening others : List (Event Stage)}
    {after : Cycle} (announced : Runs (Cycle.announce plan) opening ())
    (goesOn : GoesOn atSite plan {} passages others after)
    : Frames passages (siteEvents (opening ++ others)) := by
  obtain ⟨-, -, paced⟩ := goesOn
  refine ⟨siteEvents opening, [], ?_, ?_⟩
  · rw [siteEvents_say announced]
    simp
  · rw [siteEvents_append, siteEvents_of_paced paced, List.append_nil]

theorem frames_of_leaves {passages : List (Passage Stage)} {opening others : List (Event Stage)}
    {after : Cycle} (announced : Runs (Cycle.announce plan) opening ())
    (leaves : Leaves atSite plan {} passages others after)
    : Frames passages (siteEvents (opening ++ others)) := by
  obtain ⟨-, earlier, last, paces, closing, rfl, rfl, -, -, paced, left⟩ := leaves
  refine ⟨siteEvents opening, siteEvents closing, ?_, ?_⟩
  · rw [siteEvents_say announced, siteEvents_say left]
    simp
  · simp [siteEvents_of_paced paced]

/-- Rounds that go on come to no more than three scenes. -/
theorem goesOn_plays {passages : List (Passage Stage)} {events : List (Event Stage)}
    {cycle : Cycle} {world last : World} (wanted : plan.policy.downloads = true)
    (counts : plan.policy.countsChecks = true)
    (goesOn : GoesOn atSite plan {} passages events cycle)
    (performs : Performs world (servedIn passages) last) (start : world.asked = 0)
    : passages.countP isOnline < 4 := by
  obtain ⟨rounds, go, -⟩ := goesOn
  obtain ⟨counted, within, -⟩ :=
    rounds_play wanted counts (courses_of_rounds rounds) go performs (by omega)
  omega

/-- Rounds up to a restart play all scenes, and the last one is online. -/
theorem leaves_plays {passages : List (Passage Stage)} {events : List (Event Stage)}
    {cycle : Cycle} {world last : World} (wanted : plan.policy.downloads = true)
    (counts : plan.policy.countsChecks = true)
    (leaves : Leaves atSite plan {} passages events cycle)
    (performs : Performs world (servedIn passages) last) (start : world.asked = 0)
    : passages.countP isOnline = 4 ∧ passages.getLast?.map isOnline = some true
      ∧ Scenes 0 4 (servedIn passages) (toldIn passages) := by
  obtain ⟨rounds, earlier, final, -, -, rfl, -, go, restarting, -⟩ := leaves
  obtain ⟨courses, course⟩ := List.forall_mem_append.1 (courses_of_rounds rounds)
  rw [servedIn, List.flatMap_append, List.flatMap_singleton] at performs ⊢
  obtain ⟨middle, performed, rest⟩ := Performs.append_iff.1 performs
  obtain ⟨counted, within, scenes⟩ :=
    rounds_play wanted counts courses go performed (by omega)
  rcases round_plays wanted counts (course final (List.mem_singleton_self _)) rest within with
    ⟨-, offline, -⟩ | ⟨online, -, scene⟩
  · cases offline.symm.trans restarting
  · have fourth : middle.asked = 3 := scene.restarting_iff.1 restarting
    rw [start, fourth] at scenes
    rw [fourth] at scene
    refine ⟨?_, ?_, ?_⟩
    · rw [List.countP_append, List.countP_singleton, online, if_pos rfl]
      omega
    · rw [List.getLast?_concat, Option.map_some, online]
    · rw [toldIn, List.flatMap_append, List.flatMap_singleton]
      exact scenes.concat scene

/-- Rounds up to a restart restart once, and as the last thing they ask for. -/
theorem leaves_restart {passages : List (Passage Stage)} {events : List (Event Stage)}
    {cycle : Cycle} (leaves : Leaves atSite plan {} passages events cycle)
    (frames : Frames passages asked)
    : restarts.of asked = [.firmwareUpdate]
      ∧ (calls asked).getLast? = some ⟨.restart .firmwareUpdate, ()⟩ := by
  obtain ⟨rounds, earlier, final, -, -, rfl, -, go, restarting, -⟩ := leaves
  obtain ⟨courses, course⟩ := List.forall_mem_append.1 (courses_of_rounds rounds)
  have ends := course final (List.mem_singleton_self _)
  rw [frames.of_view, frames.calls, List.flatMap_append, List.flatMap_append,
    List.flatMap_singleton, List.flatMap_singleton]
  constructor
  · have before
        : earlier.flatMap (fun passage => restarts.of (siteEvents passage.events)) = [] := by
      refine List.flatMap_eq_nil_iff.2 fun passage member => ?_
      rcases (courses passage member).staged_or_not with ⟨stops, -⟩ | ⟨-, -, none⟩
      · exact absurd stops (go passage member)
      · exact none
    rw [before, List.nil_append]
    rcases ends.staged_or_not with ⟨-, -, once⟩ | ⟨goes, -⟩
    · exact once
    · exact absurd restarting goes
  · rw [restarting] at ends
    obtain ⟨amid, release, endedAt, record, handedIn, marked, same, -⟩ := ends.farewell
    rw [same]
    simp

/-- A cycle that wants releases and counts its checks runs by itself at a site whose server plays
its part, while all else is answered in any way. It goes on to its limit as long as fewer than four
rounds were online, and the fourth round that is online ends it. By then the server has been asked
for the whole play and the whole story has been told, and a restart for the update was asked for
once and as the last thing. Every round reports itself once.
-/
theorem fourth_online_round_ends_the_play {plan : Plan} (wanted : plan.policy.downloads = true)
    (counts : plan.policy.countsChecks = true)
    (free : List (Event Stage) → (r : Request) → Answer r) (limit : Nat)
    : let path := (Cycle.run atSite plan limit {}).pursue
        (fun past r => some (answers free past r)) []
      let asked := siteEvents path.1
      ∃ goesOn after passages opening others,
        path = (opening ++ others, .inl (goesOn, after))
        ∧ Runs (Cycle.announce plan) opening ()
        ∧ (∀ passage ∈ passages,
          (Event.deposits (siteEvents passage.events)).count (.count .rounds) = 1)
        ∧ (Event.deposits asked).count (.count .rounds) = passages.length
        ∧ (goesOn = true ∧ passages.length = limit
            ∧ GoesOn atSite plan {} passages others after
            ∧ passages.countP isOnline < 4
          ∨ goesOn = false ∧ passages.length ≤ limit
            ∧ Leaves atSite plan {} passages others after
            ∧ passages.countP isOnline = 4
            ∧ passages.getLast?.map isOnline = some true
            ∧ servings.of asked = plot
            ∧ (∃ putOff installed, putOff.code = 1 ∧ installed.code = 0
              ∧ tidings asked = story putOff installed)
            ∧ restarts.of asked = [.firmwareUpdate]
            ∧ (calls asked).getLast? = some ⟨.restart .firmwareUpdate, ()⟩) := by
  intro path asked
  obtain ⟨⟨goesOn, after⟩, ended⟩ := exists_pursue_eq free [] (Cycle.run atSite plan limit {})
  obtain ⟨opening, others, whole, announced, ways⟩ := run_runs_iff.1 (Runs.pursue ended)
  have performs : Performs World.initial (servings.of asked) _ := performs_pursue [] _
  have siteOf : asked = siteEvents (opening ++ others) := congrArg siteEvents whole
  rcases ways with ⟨rfl, passages, length, goesOn⟩ | ⟨rfl, passages, length, leaves⟩
  · have frames : Frames passages asked := siteOf ▸ frames_of_goesOn announced goesOn
    rw [show servings.of asked = servedIn passages from frames.of_view servings] at performs
    have each passage member := (courses_of_rounds goesOn.1 passage member).count_rounds
    have few := goesOn_plays wanted counts goesOn performs rfl
    exact ⟨true, after, passages, opening, others, Prod.ext whole ended, announced, each,
      frames.count_rounds each, .inl ⟨rfl, length, goesOn, few⟩⟩
  · have frames : Frames passages asked := siteOf ▸ frames_of_leaves announced leaves
    have served : servings.of asked = servedIn passages := frames.of_view servings
    rw [served] at performs
    have each passage member := (courses_of_rounds leaves.1 passage member).count_rounds
    obtain ⟨four, online, scenes⟩ := leaves_plays wanted counts leaves performs rfl
    obtain ⟨asks, tells⟩ := scenes.whole
    rw [← frames.tidings] at tells
    obtain ⟨once, last⟩ := leaves_restart leaves frames
    exact ⟨false, after, passages, opening, others, Prod.ext whole ended, announced, each,
      frames.count_rounds each,
      .inr ⟨rfl, length, leaves, four, online, served.trans asks, tells, once, last⟩⟩

/-- A site that is online every second time it is asked, and at which nothing can be counted. -/
def flickering (past : List (Event Stage)) : (r : Request) → Answer r
  | .site .isOnline => (onlines.of (siteEvents past)).length % 2 == 1
  | .site (.report (.count _)) => .error ⟨"store is full"⟩
  | .site r => steady .nothing .staged r
  | .registry => ⟨0, 0, []⟩
  | .fork _ => 0
  | .exported => ""
  | .pause _ | .replace _ | .acquire | .release | .join _ => ()

theorem fourth_online_round_ends_the_play_flickering
    : ∃ after passages opening others,
      (Cycle.run atSite ⟨{}, false⟩ 10 {}).pursue
          (fun past r => some (answers flickering past r)) []
        = (opening ++ others, .inl (false, after))
      ∧ passages.length = 8
      ∧ Leaves atSite ⟨{}, false⟩ {} passages others after
      ∧ passages.countP isOnline = 4 := by
  obtain ⟨goesOn, after, passages, opening, others, whole, -, -, counted, ways⟩ :=
    @fourth_online_round_ends_the_play ⟨{}, false⟩ rfl rfl flickering 10
  let path := (Cycle.run atSite ⟨{}, false⟩ 10 {}).pursue
    (fun past r => some (answers flickering past r)) []
  have stops : path.2.getLeft?.map Prod.fst = some false := by decide +kernel
  have eight : (Event.deposits (siteEvents path.1)).count (.count .rounds) = 8 := by
    decide +kernel
  rw [show path = _ from whole] at stops
  rcases ways with ⟨rfl, -⟩ | ⟨rfl, -, leaves, four, -⟩
  · cases stops
  · exact ⟨after, passages, opening, others, whole, counted.symm.trans eight, leaves, four⟩

end Caretaker.Rehearsal
