import Caretaker.Proofs.Cycle.Restart
import Caretaker.Proofs.Device.Image

/-!
Rounds on the device. The free slot is completed if and only if the device restarts for a firmware
update, and what it holds then is the image of the release that was found in the same round.
-/

namespace Caretaker.Device

open Caretaker.Cycle (Course Opening Passage Plan Rounds looked)
open Caretaker.Cycle.Step (foundEvents partingEvents)
open View (findings installations restarts)

-----------------------------------------------------------------------------
-- Requests of the site on the device

/-- What the device asks in restarting, up to the restart itself. -/
def restartEvents (reason : Reset.Reason) : List (Event Platform) :=
  [⟨.report (.say ⟨.warn, some "restart", "Restarting: " ++ reason.tag⟩), ()⟩,
    ⟨.call (.drain drainMillis), ()⟩]

variable {width : Width} {backend : Provision.Backend} {events : List (Event Platform)}

/-- A restart never comes to an end. -/
theorem not_runs_restart {reason : Reset.Reason} {answer : Unit}
    : ¬ Runs (site width backend (.restart reason)) events answer := by
  intro h
  obtain ⟨told, first, rfl, behind⟩ := Runs.ask_iff.1 h
  obtain ⟨drained, second, rfl, last⟩ := Runs.ask_iff.1 behind
  obtain ⟨nothing, -⟩ := Runs.ask_iff.1 last
  exact nothing.elim

/-- A restart comes to the request that nothing follows. -/
theorem asks_restart {reason : Reset.Reason} {r : Request} (final : r.kind = .final)
    (h : Asks (site width backend (.restart reason)) events r)
    : events = restartEvents reason ∧ r = .call .reboot := by
  rcases Asks.ask_iff.1 h with ⟨-, rfl⟩ | ⟨told, first, rfl, behind⟩
  · cases final
  rcases Asks.ask_iff.1 behind with ⟨-, rfl⟩ | ⟨drained, second, rfl, last⟩
  · cases final
  rcases Asks.ask_iff.1 last with ⟨rfl, rfl⟩ | ⟨nothing, -⟩
  · exact ⟨rfl, rfl⟩
  · exact nothing.elim

/-- All but installations and restarts are plain requests on the device. -/
theorem plain_site {r : Site.Request} (notInstall : ∀ release, r ≠ .install release)
    (notRestart : ∀ reason, r ≠ .restart reason)
    : Plain (site width backend r) := by
  cases r with
  | now => exact plain_ask rfl
  | report report => exact plain_ask rfl
  | isOnline => exact plain_isOnline
  | setting key => exact plain_lookUp key
  | join credentials => exact plain_join credentials
  | check => exact Server.plain_check width backend
  | install release => exact absurd rfl (notInstall release)
  | light lamp => exact plain_light lamp
  | mark reason => exact plain_mark reason
  | restart reason => exact absurd rfl (notRestart reason)

/-- All but restarts end nothing but themselves. -/
theorem site_lasts {r : Site.Request} (notRestart : ∀ reason, r ≠ .restart reason)
    : (site width backend r).Only (Request.kind · ≠ .final) := by
  by_cases install : ∃ release, r = .install release
  · obtain ⟨release, rfl⟩ := install
    exact Server.install_lasts width release
  · have plain : Plain (site width backend r) := plain_site (not_exists.1 install) notRestart
    exact plain.mono fun r plain final => nomatch plain.symm.trans final

-----------------------------------------------------------------------------
-- Rounds on the device

/-- How a round on the device ends: with a result, or at a request that nothing follows. -/
inductive Ending where
  | returned (result : Cycle.Result) (after : Cycle)
  | pending (r : Request)

/-- What is asked in a round on the device, up to its ending. -/
inductive Round (width : Width) (backend : Provision.Backend) (plan : Plan) (before : Cycle)
    : List (Event Platform) → Ending → Prop where
  | returned {events : List (Event Platform)} {result : Cycle.Result} {after : Cycle}
      (ran : Runs (((Cycle.round plan).run before).realize (site width backend)) events
        (result, after))
      : Round width backend plan before events (.returned result after)
  | pending {events : List (Event Platform)} {r : Request}
      (asks : Asks (((Cycle.round plan).run before).realize (site width backend)) events r)
      (final : ¬ Nonempty (Answer r))
      : Round width backend plan before events (.pending r)

variable {plan : Plan} {before : Cycle} {ending : Ending}

/-- Every request to a site has an answer, by cases over the request. -/
instance (r : Site.Request) : Nonempty (Site.Answer r) :=
  match r with
  | .now => ⟨(0 : Stamp)⟩
  | .report (.say _) => ⟨()⟩
  | .report (.count _) | .report (.attempt _) | .report (.notice _) | .report .keepLog => ⟨.ok ()⟩
  | .isOnline => ⟨false⟩
  | .setting _ => ⟨.ok none⟩
  | .join _ => ⟨.ok ()⟩
  | .check => ⟨.nothing⟩
  | .install _ => ⟨.deferred⟩
  | .light _ => ⟨()⟩
  | .mark _ => ⟨.ok ()⟩
  | .restart _ => ⟨()⟩

/-- A round that returns has met all its requests and restarts nothing. -/
theorem returned_round {result : Cycle.Result} {after : Cycle}
    (closed : before.attempt.startedAt = none)
    (ran : Runs (((Cycle.round plan).run before).realize (site width backend)) events
      (result, after))
    : result ≠ .restarting ∧ ∃ asked, Met (site width backend) asked events
      ∧ ∀ release, (release, .staged) ∉ installations.of asked := by
  obtain ⟨asked, went, met⟩ := Runs.realize_iff.1 ran
  obtain ⟨course, -⟩ := Cycle.round_course closed went
  rcases course.staged_or_not with ⟨-, -, restarted⟩ | ⟨goes, unstaged, -⟩
  · have asking : .firmwareUpdate ∈ restarts.of asked := restarted ▸ List.mem_singleton_self _
    obtain ⟨restarting, ran, -⟩ := met.exists_of_mem _ (View.mem_restarts_iff.1 asking)
    exact absurd ran not_runs_restart
  · exact ⟨goes, asked, met, unstaged⟩

/-- A round that does not return is about to restart. -/
theorem pending_round {r : Request} (closed : before.attempt.startedAt = none)
    (asks : Asks (((Cycle.round plan).run before).realize (site width backend)) events r)
    (final : r.kind = .final)
    : r = .call .reboot ∧ ∃ asked way reason rest result,
      Course plan (asked ++ ⟨.restart reason, ()⟩ :: rest) result
      ∧ Met (site width backend) asked way ∧ events = way ++ restartEvents reason := by
  obtain ⟨asked, question, way, behind, rfl, went, met, last⟩ := Asks.realize_iff.1 asks
  by_cases restart : ∃ reason, question = .restart reason
  · obtain ⟨reason, rfl⟩ := restart
    obtain ⟨rfl, rfl⟩ := asks_restart final last
    obtain ⟨rest, ⟨result, after⟩, whole⟩ := went.completes ()
    obtain ⟨course, -⟩ := Cycle.round_course closed whole
    exact ⟨rfl, asked, way, reason, rest, result, course, met, rfl⟩
  · have lasts : (site width backend question).Only _ := site_lasts (not_exists.1 restart)
    exact absurd final (Program.Only.of_asks last lasts)

/-- A round that installs nothing leaves the slot incomplete, by cases over its requests. -/
theorem not_completed_of_unstaged {asked : List (Event Site)}
    (met : Met (site width backend) asked events)
    (unstaged : ∀ release, (release, .staged) ∉ installations.of asked)
    : Server.completed ∉ events := by
  have each : ∀ d ∈ events, d ≠ Server.completed := by
    refine met.forall_event fun e member way ran d inWay same => ?_
    subst same
    obtain ⟨r, answer⟩ := e
    by_cases restart : ∃ reason, r = .restart reason
    · obtain ⟨reason, rfl⟩ := restart
      exact not_runs_restart ran
    by_cases install : ∃ release, r = .install release
    · obtain ⟨release, rfl⟩ := install
      rcases Server.install_runs ran with ⟨rfl, -⟩ | ⟨-, unfinished⟩
      · exact unstaged release (View.mem_installations_iff.2 member)
      · exact unfinished inWay
    · have plain : Plain (site width backend r) :=
        plain_site (not_exists.1 install) (not_exists.1 restart)
      cases Program.Only.of_runs ran plain _ inWay
  exact fun member => each _ member rfl

-----------------------------------------------------------------------------
-- The slot and the restart

/-- The round ends in a restart for a firmware update. -/
def Updates (events : List (Event Platform)) (ending : Ending) : Prop :=
  ending = .pending (.call .reboot) ∧ ∃ way, events = way ++ restartEvents .firmwareUpdate

/-- The slot holds the whole image of the release that was found in this round, and nothing else was
written. A record of success follows, and the restart comes last.
-/
def HoldsRelease (width : Width) (backend : Provision.Backend) (release : Release)
    (image : List UInt8) (events : List (Event Platform)) : Prop :=
  ∃ (manifest : List UInt8) (record : Attempt.Record) (handedIn : Except Fault Unit)
    (opening fetched between staged rest : List (Event Platform)),
    events = opening ++ fetched ++ between ++ staged ++ rest ++ restartEvents .firmwareUpdate
    ∧ Server.Fetched backend manifest fetched
    ∧ Server.releaseOfJson width manifest = .ok release
    ∧ Server.Stages width release image staged
    ∧ Server.written events = image
    ∧ (∀ e ∈ opening ++ fetched ++ between ++ rest, e.request.kind = .plain)
    ∧ ⟨.report (.attempt record), handedIn⟩ ∈ rest
    ∧ record.code = 0

/-- What is asked in a round besides installations and restarts is plain on the device. -/
theorem plain_met {asked : List (Event Site)} (met : Met (site width backend) asked events)
    (uninstalled : installations.of asked = []) (unrestarted : restarts.of asked = [])
    : ∀ e ∈ events, e.request.kind = .plain := by
  refine met.forall_event fun e member way ran d inWay => ?_
  obtain ⟨r, answer⟩ := e
  have plain : Plain (site width backend r) := by
    refine plain_site ?_ ?_
    · intro release same
      subst same
      have installs := View.mem_installations_iff.2 member
      rw [uninstalled] at installs
      cases installs
    · intro reason same
      subst same
      have restarts := View.mem_restarts_iff.2 member
      rw [unrestarted] at restarts
      cases restarts
  exact Program.Only.of_runs ran plain d inWay

/-- What is asked in looking for a release that is found. -/
theorem met_looked {release : Release}
    (met : Met (site width backend) (looked (.found release)) events)
    : ∃ said fetched line manifest, events = said ++ fetched ++ line
      ∧ (∀ e ∈ said ++ fetched ++ line, e.request.kind = .plain)
      ∧ Server.Fetched backend manifest fetched
      ∧ Server.releaseOfJson width manifest = .ok release := by
  have plain := plain_met met (by simp [installations]) (by simp [restarts])
  obtain ⟨said, checking, rfl, -, metCheck⟩ := Met.cons_iff.1 met
  obtain ⟨checked, nothing, rfl, ran, metNothing⟩ := Met.cons_iff.1 metCheck
  obtain rfl := Met.nil_iff.1 metNothing
  obtain ⟨manifest, fetched, line, rfl, -, fetching, described⟩ := Server.check_runs ran
  have same : said ++ (fetched ++ [line] ++ []) = said ++ fetched ++ [line] := by simp
  rw [same] at plain ⊢
  exact ⟨said, fetched, [line], manifest, rfl, plain, fetching, described⟩

/-- A round that is about to restart has the release in the slot. -/
theorem holds_of_pending {asked rest : List (Event Site)} {way : List (Event Platform)}
    {reason : Reset.Reason} {result : Cycle.Result}
    (course : Course plan (asked ++ ⟨.restart reason, ()⟩ :: rest) result)
    (met : Met (site width backend) asked way)
    : reason = .firmwareUpdate ∧ Server.completed ∈ way
      ∧ ∃ release image, HoldsRelease width backend release image (way ++ restartEvents reason)
        ∧ ∀ size ∈ release.size, size = image.length % width.values := by
  obtain ⟨opening, release, startedAt, endedAt, handedIn, marked, rfl, opens, rfl⟩ :=
    course.before_restart
  obtain ⟨opened, looking, rfl, metOpening, metRest⟩ := Met.append_iff.1 met
  obtain ⟨found, ending, rfl, metFound, metEnding⟩ := Met.append_iff.1 metRest
  obtain ⟨look, between, rfl, metLook, metBetween⟩ := Met.append_iff.1 metFound
  obtain ⟨installing, parting, rfl, ran, metParting⟩ := Met.cons_iff.1 metEnding
  obtain ⟨said, fetched, line, manifest, rfl, plainLook, fetching, described⟩ := met_looked metLook
  rcases Server.install_runs ran with ⟨-, image, staged, told, rfl, plainTold, stages⟩ | ⟨⟨⟩, -⟩
  let record : Attempt.Record := .between startedAt endedAt Attempt.succeeded
  have plainOpening := plain_met metOpening (installations.of_opening_of_blind opens fun _ => rfl)
    (restarts.of_opening_of_blind opens fun _ => rfl)
  have plainBetween := plain_met metBetween (by simp [installations]) (by simp [restarts])
  have plainParting := plain_met metParting (by simp [installations]) (by simp [restarts])
  obtain ⟨handing, handed, within⟩ :=
    metParting.exists_of_mem ⟨.report (.attempt record), handedIn⟩
      (by simp [partingEvents, Cycle.Step.ended, record])
  obtain rfl := Runs.request_iff.1 handed
  have shape : opened ++ (said ++ fetched ++ line ++ between ++ (staged ++ [told] ++ parting))
      ++ restartEvents .firmwareUpdate
      = (opened ++ said) ++ fetched ++ (line ++ between) ++ staged ++ (told :: parting)
        ++ restartEvents .firmwareUpdate := by
    simp
  have plainBefore : ∀ e ∈ (opened ++ said) ++ fetched ++ (line ++ between),
      e.request.kind = .plain := by
    simp only [List.forall_mem_append] at plainLook ⊢
    exact ⟨⟨⟨plainOpening, plainLook.1.1⟩, plainLook.1.2⟩, plainLook.2, plainBetween⟩
  have plainAfter : ∀ e ∈ told :: parting, e.request.kind = .plain :=
    List.forall_mem_cons.2 ⟨plainTold, plainParting⟩
  have plainRestart : ∀ e ∈ restartEvents .firmwareUpdate, e.request.kind = .plain := by
    simp [restartEvents, Request.kind]
  have wrote : Server.written ((opened ++ said) ++ fetched ++ (line ++ between) ++ staged
      ++ (told :: parting) ++ restartEvents .firmwareUpdate) = image := by
    rw [List.append_assoc (_ ++ staged)]
    exact stages.written_amid plainBefore (List.forall_mem_append.2 ⟨plainAfter, plainRestart⟩)
  have completing : Server.completed ∈ staged := by
    obtain ⟨length, streamed, rfl, -⟩ := stages
    simp
  have sizes : ∀ size ∈ release.size, size = image.length % width.values := by
    obtain ⟨length, streamed, -, -, sizes⟩ := stages
    exact sizes
  rw [shape]
  refine ⟨rfl, by simp [completing], release, image, ⟨manifest, record, handedIn, _, fetched, _,
    staged, _, rfl, fetching, described, stages, wrote,
    List.forall_mem_append.2 ⟨plainBefore, plainAfter⟩, ?_, rfl⟩, sizes⟩
  exact List.mem_cons_of_mem _ (within (List.mem_singleton_self _))

/-- In rounds on the device from the first one on, the slot is completed if and only if the device
restarts for a firmware update. When it is, it holds the image of the release that was found in this
round. The image is as long as announced: to the byte, since the slot can be addressed, and in any
slot so far as a word tells. Any other round returns and restarts nothing.
-/
theorem completed_iff_restart {passages : List (Passage Platform)}
    (rounds : Rounds (site width backend) plan {} passages before)
    (round : Round width backend plan before events ending)
    : (Server.completed ∈ events ↔ Updates events ending)
      ∧ (Server.completed ∈ events
        → ∃ release image, HoldsRelease width backend release image events
          ∧ (Server.Addressable width (Server.written events)
            → ∀ size ∈ release.size, size = image.length)
          ∧ ∀ size ∈ release.size, size = image.length % width.values)
      ∧ (Server.completed ∉ events
        → ∃ result after, ending = .returned result after ∧ result ≠ .restarting) := by
  obtain ⟨closed, -⟩ := rounds.courses rfl
  cases round with
  | returned ran =>
    obtain ⟨goes, asked, met, unstaged⟩ := returned_round closed ran
    have unfinished := not_completed_of_unstaged met unstaged
    refine ⟨?_, fun finished => absurd finished unfinished, fun _ => ⟨_, _, rfl, goes⟩⟩
    refine iff_of_false unfinished fun updates => ?_
    cases updates.1
  | pending asks final =>
    obtain ⟨rfl, asked, way, reason, rest, result, course, met, rfl⟩ :=
      pending_round closed asks (Request.kind_eq_final_iff.2 final)
    obtain ⟨rfl, finished, release, image, holds, counted⟩ := holds_of_pending course met
    have finished' : Server.completed ∈ way ++ restartEvents .firmwareUpdate :=
      List.mem_append_left _ finished
    refine ⟨iff_of_true finished' ⟨rfl, way, rfl⟩,
      fun _ => ⟨release, image, holds, fun addressable => ?_, counted⟩,
      fun unfinished => absurd finished' unfinished⟩
    obtain ⟨-, -, -, -, -, -, -, -, -, -, -, -, wrote, -⟩ := holds
    rw [Server.Addressable, wrote] at addressable
    rwa [Nat.mod_eq_of_lt addressable] at counted

/-- As much of a body as fits into one part. -/
def Part.most {room : Nat} {left : Option Nat} (body : List UInt8) : Part room left where
  bytes := body.take (min room (left.getD room))
  le_room := Nat.le_trans (List.length_take_le ..) (Nat.min_le_left ..)
  le_left := by
    intro n announced
    rw [Option.mem_def.1 announced]
    exact Nat.le_trans (List.length_take_le ..) (Nat.min_le_right ..)

/-- A platform on which everything works, and servers with this manifest and this image. -/
def obliging (manifest image : List UInt8) (past : List (Event Platform))
    : (r : Request) → Option (Answer r)
  | .now => some (0 : Stamp)
  | .report (.say _) => some ()
  | .report (.count _) | .report (.attempt _) => some (.ok ())
  | .call .isAssociated | .call .isUp => some (.ok true)
  | .call (.connect ..) | .call (.get ..) => some (.ok ())
  | .call .submit => some (.ok ⟨200, image.length⟩)
  | .call (.read _ left) =>
    let whole := match left, past with
      | some left, _ => if left = image.length then image else []
      | none, ⟨.call .submit, _⟩ :: _ => manifest
      | none, _ => []
    some (.ok (.most whole))
  | .call .openSlot | .call .beginUpdate | .call (.writeUpdate _) | .call .completeUpdate
  | .call (.setPin ..) | .call (.write ..) => some (.ok ())
  | .call (.drain _) => some ()
  | _ => none

theorem completed_iff_restart_obliging
    : ∃ events r release image, Round .bits32 {} ⟨{}, false⟩ {} events (.pending r)
      ∧ Server.completed ∈ events
      ∧ HoldsRelease .bits32 {} release image events
      ∧ Server.written events = [1, 2, 3]
      ∧ ∀ size ∈ release.size, size = image.length := by
  let manifest := Text.toBytes "\x7b\"version\":\"2\",\"url\":\"u\",\"size\":3\x7d"
  let tick := ((Cycle.round ⟨{}, false⟩).run {}).realize (site .bits32 {})
  have last : (tick.pursue (obliging manifest [1, 2, 3]) []).2.getRight?.map Request.kind
      = some .final := by
    decide +kernel
  have wrote : Server.written (tick.pursue (obliging manifest [1, 2, 3]) []).1 = [1, 2, 3] := by
    decide +kernel
  obtain ⟨r, stuck, final⟩ := Option.map_eq_some_iff.1 last
  have asks := Asks.pursue (Sum.getRight?_eq_some_iff.1 stuck)
  have round := Round.pending asks (Request.kind_eq_final_iff.1 final)
  obtain ⟨-, holds, returns⟩ := completed_iff_restart (.none {}) round
  by_cases finished : Server.completed ∈ (tick.pursue (obliging manifest [1, 2, 3]) []).1
  · obtain ⟨release, image, held, exactly, -⟩ := holds finished
    refine ⟨_, r, release, image, round, finished, held, wrote, exactly ?_⟩
    rw [wrote]
    decide
  · obtain ⟨result, after, returned, -⟩ := returns finished
    cases returned

end Caretaker.Device
