import Caretaker.Bench
import Caretaker.Proofs.Cycle.Restart

/-!
The cycle by itself. It goes from round to round with a pause behind each of them, and the only way
out is a round that restarts.
-/

namespace Caretaker.Cycle

open Site View

section

variable {S : Signature} [Reports S] [Tasks S]
  {site : (r : Site.Request) → Program S (Site.Answer r)} {plan : Plan} {cycle after : Cycle}
  {events : List (Event S)} {goesOn : Bool}

-----------------------------------------------------------------------------
-- Rounds and pauses

/-- What is asked in some rounds with a pause behind each of them, for as many milliseconds as there
are in the seconds between two checks.
-/
inductive Paced (plan : Plan) : List (Passage S) → List (Event S) → Prop where
  | none : Paced plan [] []
  | next {passage : Passage S} {passages : List (Passage S)} {paused others : List (Event S)}
      (pause : Runs (Tasks.pause (plan.policy.checkSeconds.toNat * 1000)) paused ())
      (rest : Paced plan passages others)
      : Paced plan (passage :: passages) (passage.events ++ paused ++ others)

/-- What is said behind a restart that leaves the cycle running. -/
def leave : Program S Unit :=
  say .warn Step.origin "Restart requested but still running; leaving OTA loop"

/-- Rounds with a pause behind each of them, none of which restarts. -/
def GoesOn (site : (r : Site.Request) → Program S (Site.Answer r)) (plan : Plan) (cycle : Cycle)
    (passages : List (Passage S)) (events : List (Event S)) (after : Cycle)
    : Prop :=
  Rounds site plan cycle passages after
    ∧ (∀ passage ∈ passages, passage.result ≠ .restarting)
    ∧ Paced plan passages events

/-- Rounds with a pause behind each of them but the last one, which is the only one that restarts.
-/
def Leaves (site : (r : Site.Request) → Program S (Site.Answer r)) (plan : Plan) (cycle : Cycle)
    (passages : List (Passage S)) (events : List (Event S)) (after : Cycle)
    : Prop :=
  Rounds site plan cycle passages after
    ∧ ∃ earlier last paced closing,
      passages = earlier ++ [last]
      ∧ events = paced ++ last.events ++ closing
      ∧ (∀ passage ∈ earlier, passage.result ≠ .restarting)
      ∧ last.result = .restarting
      ∧ Paced plan earlier paced
      ∧ Runs (leave : Program S Unit) closing ()

-----------------------------------------------------------------------------
-- Turns

/-- A turn is a round, with a pause behind it unless it restarts. -/
theorem turn_runs_iff
    : Runs (turn site plan cycle) events (goesOn, after)
      ↔ ∃ result first second, events = first ++ second
        ∧ Runs (((round plan).run cycle).realize site) first (result, after)
        ∧ (result = .restarting ∧ goesOn = false ∧ Runs (leave : Program S Unit) second ()
          ∨ result ≠ .restarting ∧ goesOn = true
            ∧ Runs (Tasks.pause (plan.policy.checkSeconds.toNat * 1000) : Program S Unit)
              second ()) := by
  rw [turn, Runs.bind_iff]
  constructor
  · intro h
    obtain ⟨first, second, ⟨result, middle⟩, rfl, ran, rest⟩ := h
    by_cases restarting : result = .restarting
    · subst restarting
      obtain ⟨left, same⟩ := Runs.then_done_iff.1 rest
      cases same
      exact ⟨.restarting, first, second, rfl, ran, .inl ⟨rfl, rfl, left⟩⟩
    · dsimp only at rest
      rw [if_neg restarting] at rest
      obtain ⟨pause, same⟩ := Runs.then_done_iff.1 rest
      cases same
      exact ⟨result, first, second, rfl, ran, .inr ⟨restarting, rfl, pause⟩⟩
  · intro h
    obtain ⟨result, first, second, rfl, ran, ⟨rfl, rfl, left⟩ | ⟨goes, rfl, pause⟩⟩ := h
    · exact ⟨first, second, _, rfl, ran, Runs.then_done_iff.2 ⟨left, rfl⟩⟩
    · refine ⟨first, second, _, rfl, ran, ?_⟩
      dsimp only
      rw [if_neg goes]
      exact Runs.then_done_iff.2 ⟨pause, rfl⟩

/-- A turn more is a round that restarts, or a round and a pause with the other turns behind it. -/
theorem turns_succ_runs_iff {limit : Nat}
    : Runs (turns site plan (limit + 1) cycle) events (goesOn, after)
      ↔ (goesOn = false ∧ ∃ first closing, events = first ++ closing
          ∧ Runs (((round plan).run cycle).realize site) first (.restarting, after)
          ∧ Runs (leave : Program S Unit) closing ())
        ∨ ∃ result middle first paused others, events = first ++ paused ++ others
          ∧ Runs (((round plan).run cycle).realize site) first (result, middle)
          ∧ result ≠ .restarting
          ∧ Runs (Tasks.pause (plan.policy.checkSeconds.toNat * 1000) : Program S Unit) paused ()
          ∧ Runs (turns site plan limit middle) others (goesOn, after) := by
  rw [turns, Runs.bind_iff]
  constructor
  · intro h
    obtain ⟨round, others, ⟨another, middle⟩, rfl, turned, rest⟩ := h
    obtain ⟨result, first, behind, rfl, ran, ⟨rfl, rfl, left⟩ | ⟨goes, rfl, pause⟩⟩ :=
      turn_runs_iff.1 turned
    · obtain ⟨rfl, same⟩ := Runs.done_iff.1 rest
      cases same
      exact .inl ⟨rfl, first, behind, List.append_nil _, ran, left⟩
    · exact .inr ⟨result, middle, first, behind, others, rfl, ran, goes, pause, rest⟩
  · intro h
    rcases h with ⟨rfl, first, closing, rfl, ran, left⟩
      | ⟨result, middle, first, paused, others, rfl, ran, goes, pause, rest⟩
    · have turned := turn_runs_iff.2 ⟨_, first, closing, rfl, ran, .inl ⟨rfl, rfl, left⟩⟩
      exact ⟨first ++ closing, [], _, (List.append_nil _).symm, turned, .done _⟩
    · have turned := turn_runs_iff.2 ⟨_, first, paused, rfl, ran, .inr ⟨goes, rfl, pause⟩⟩
      exact ⟨first ++ paused, others, _, rfl, turned, rest⟩

/-- Turns of which another would follow are rounds that go on, by induction over their number. -/
theorem turns_going_on_iff {limit : Nat}
    : Runs (turns site plan limit cycle) events (true, after)
      ↔ ∃ passages, passages.length = limit ∧ GoesOn site plan cycle passages events after := by
  induction limit generalizing cycle events with
  | zero =>
    rw [turns, Program.pure_eq_done, Runs.done_iff]
    constructor
    · intro h
      obtain ⟨rfl, same⟩ := h
      cases same
      exact ⟨[], rfl, .none _, nofun, .none⟩
    · intro h
      obtain ⟨passages, length, rounds, -, paced⟩ := h
      cases List.length_eq_zero_iff.1 length
      cases rounds
      cases paced
      exact ⟨rfl, rfl⟩
  | succ limit ih =>
    rw [turns_succ_runs_iff]
    constructor
    · intro h
      rcases h with ⟨stops, -⟩
        | ⟨result, middle, first, paused, others, rfl, ran, goes, pause, rest⟩
      · cases stops
      · obtain ⟨passages, rfl, rounds, go, paced⟩ := ih.1 rest
        refine ⟨_, List.length_cons .., .next ran rounds, ?_, .next pause paced⟩
        exact List.forall_mem_cons.2 ⟨goes, go⟩
    · intro h
      obtain ⟨passages, length, rounds, go, paced⟩ := h
      cases paced with
      | none => cases length
      | @next passage passages paused others pause paced =>
        cases rounds with
        | @next _ middle _ first result _ ran rounds =>
          obtain ⟨goes, go⟩ := List.forall_mem_cons.1 go
          have rest := ih.2 ⟨passages, Nat.succ.inj length, rounds, go, paced⟩
          exact .inr ⟨result, middle, first, paused, others, rfl, ran, goes, pause, rest⟩

/-- Turns that no other follows are rounds up to one that restarts, by induction over the limit. -/
theorem turns_leaving_iff {limit : Nat}
    : Runs (turns site plan limit cycle) events (false, after)
      ↔ ∃ passages, passages.length ≤ limit ∧ Leaves site plan cycle passages events after := by
  induction limit generalizing cycle events with
  | zero =>
    rw [turns, Program.pure_eq_done, Runs.done_iff]
    constructor
    · intro h
      cases h.2
    · intro h
      obtain ⟨passages, length, -, earlier, last, paced, closing, rfl, -⟩ := h
      rw [List.length_append, List.length_singleton] at length
      omega
  | succ limit ih =>
    rw [turns_succ_runs_iff]
    constructor
    · intro h
      rcases h with ⟨-, first, closing, rfl, ran, left⟩
        | ⟨result, middle, first, paused, others, rfl, ran, goes, pause, rest⟩
      · refine ⟨[⟨cycle, first, .restarting, after⟩], Nat.succ_le_succ (Nat.zero_le limit),
          .next ran (.none after), ?_⟩
        exact ⟨[], _, [], closing, rfl, rfl, nofun, rfl, .none, left⟩
      · obtain ⟨passages, length, rounds, earlier, last, paced, closing, rfl, rfl, go, restarting,
          pauses, left⟩ := ih.1 rest
        refine ⟨⟨cycle, first, result, middle⟩ :: (earlier ++ [last]), Nat.succ_le_succ length,
          .next ran rounds, _ :: earlier, last, first ++ paused ++ paced, closing, rfl, by simp, ?_,
          restarting, .next pause pauses, left⟩
        exact List.forall_mem_cons.2 ⟨goes, go⟩
    · intro h
      obtain ⟨passages, length, rounds, earlier, last, paced, closing, rfl, rfl, go, restarting,
        pauses, left⟩ := h
      cases pauses with
      | none =>
        cases rounds with
        | next ran rounds =>
          cases rounds
          cases restarting
          exact .inl ⟨rfl, _, closing, rfl, ran, left⟩
      | @next passage earlier paused others pause pauses =>
        cases rounds with
        | @next _ middle _ first result _ ran rounds =>
          obtain ⟨goes, go⟩ := List.forall_mem_cons.1 go
          have rest := ih.2 ⟨_, Nat.le_of_succ_le_succ length, rounds, earlier, last, others,
            closing, rfl, rfl, go, restarting, pauses, left⟩
          exact .inr ⟨result, middle, first, paused, _, by simp, ran, goes, pause, rest⟩

/-- The limit only cuts the turns short: more of them go on where fewer have stopped. By induction
over the smaller limit.
-/
theorem turns_add (fewer more : Nat)
    : turns site plan (fewer + more) cycle
      = turns site plan fewer cycle >>= fun (goesOn, cycle) =>
        if goesOn then turns site plan more cycle else return (false, cycle) := by
  induction fewer generalizing cycle with
  | zero => rw [Nat.zero_add, turns]; rfl
  | succ fewer ih =>
    rw [Nat.succ_add, turns, turns, bind_assoc]
    refine bind_congr fun turned => ?_
    obtain ⟨goesOn, middle⟩ := turned
    cases goesOn with
    | false => rfl
    | true => exact ih

/-- A run is an opening line and its turns. -/
theorem run_runs_iff {limit : Nat}
    : Runs (run site plan limit cycle) events (goesOn, after)
      ↔ ∃ opening others, events = opening ++ others
        ∧ Runs (announce plan : Program S Unit) opening ()
        ∧ (goesOn = true
            ∧ (∃ passages, passages.length = limit ∧ GoesOn site plan cycle passages others after)
          ∨ goesOn = false
            ∧ ∃ passages, passages.length ≤ limit
              ∧ Leaves site plan cycle passages others after) := by
  rw [run, Runs.bind_iff]
  constructor
  · intro h
    obtain ⟨opening, others, ⟨⟩, rfl, announced, rest⟩ := h
    refine ⟨opening, others, rfl, announced, ?_⟩
    cases goesOn with
    | true => exact .inl ⟨rfl, turns_going_on_iff.1 rest⟩
    | false => exact .inr ⟨rfl, turns_leaving_iff.1 rest⟩
  · intro h
    obtain ⟨opening, others, rfl, announced, ⟨rfl, rest⟩ | ⟨rfl, rest⟩⟩ := h
    · exact ⟨opening, others, (), rfl, announced, turns_going_on_iff.2 rest⟩
    · exact ⟨opening, others, (), rfl, announced, turns_leaving_iff.2 rest⟩

-----------------------------------------------------------------------------
-- The only way out

/-- In rounds from the first one on, exactly those that install a release restart, and they do so as
the last thing they ask for. A run of the cycle goes from round to round with a pause behind each of
them, to its limit or to the first round that restarts, and the limit does nothing but cut it short.
-/
theorem restart_is_the_only_exit (site : (r : Site.Request) → Program S (Site.Answer r))
    (plan : Plan)
    : (∀ {passages last}, Rounds site plan {} passages last → ∀ passage ∈ passages, ∃ asked,
        Runs ((round plan).run passage.before) asked (passage.result, passage.after)
        ∧ Met site asked passage.events
        ∧ (restarts.of asked ≠ [] ↔ Installs plan asked)
        ∧ (passage.result = .restarting ↔ Installs plan asked)
        ∧ (passage.result = .restarting
          → restarts.of asked = [.firmwareUpdate] ∧ Farewell asked))
      ∧ (∀ limit cycle events goesOn after,
        Runs (run site plan limit cycle) events (goesOn, after)
        ↔ ∃ opening others, events = opening ++ others
          ∧ Runs (announce plan : Program S Unit) opening ()
          ∧ (goesOn = true
              ∧ (∃ passages, passages.length = limit
                ∧ GoesOn site plan cycle passages others after)
            ∨ goesOn = false
              ∧ ∃ passages, passages.length ≤ limit
                ∧ Leaves site plan cycle passages others after))
      ∧ ∀ fewer more cycle,
        turns site plan (fewer + more) cycle
        = turns site plan fewer cycle >>= fun (goesOn, cycle) =>
          if goesOn then turns site plan more cycle else return (false, cycle) := by
  refine ⟨?_, fun _ _ _ _ _ => run_runs_iff, fun fewer more _ => turns_add fewer more⟩
  intro passages last rounds passage member
  obtain ⟨-, each⟩ := rounds.courses rfl
  obtain ⟨-, -, asked, ran, course, met⟩ := each passage member
  obtain ⟨restarted, restarting⟩ := course.restarts_iff
  refine ⟨asked, ran, met, restarted, restarting, ?_⟩
  intro same
  rw [same] at course
  rcases course.staged_or_not with ⟨-, -, once⟩ | ⟨goes, -⟩
  · exact ⟨once, course.farewell⟩
  · exact absurd rfl goes

end

theorem restart_is_the_only_exit_staged
    : ∃ passage asked,
      (∃ events after,
        Runs (run (fun r => Bench.ask (.site r)) ⟨{}, false⟩ 1 {}) events (false, after)
        ∧ Rounds (fun r => Bench.ask (.site r)) ⟨{}, false⟩ {} [passage] after)
      ∧ passage.result = .restarting
      ∧ Installs ⟨{}, false⟩ asked
      ∧ Farewell asked := by
  let answer : (r : Bench.Request) → Bench.Answer r
    | .site r => Site.steady (.found ⟨"2.0.0", "http://host/image", none⟩) .staged r
    | .registry => ⟨0, 0, []⟩
    | .pause _ | .replace _ | .acquire | .release | .stuck _ => ()
  have ran := Runs.follow (S := Bench.Stand) answer
    (run (fun r => Bench.ask (.site r)) ⟨{}, false⟩ 1 {})
  obtain ⟨each, runs, -⟩ :=
    restart_is_the_only_exit (fun r => Bench.ask (.site r)) ⟨{}, false⟩
  obtain ⟨opening, others, -, -, ⟨goesOn, -⟩ | ⟨-, passages, length, rounds, leaves⟩⟩ :=
    (runs 1 {} _ _ _).1 ran
  · cases goesOn
  · obtain ⟨earlier, last, -, -, rfl, -, -, restarting, -⟩ := leaves
    rw [List.length_append, List.length_singleton] at length
    obtain rfl : earlier = [] := List.length_eq_zero_iff.1 (by omega)
    obtain ⟨asked, -, -, -, installs, farewell⟩ := each rounds last (List.mem_singleton_self _)
    exact ⟨last, asked, ⟨_, _, ran, rounds⟩, restarting, installs.1 restarting,
      (farewell restarting).2⟩

end Caretaker.Cycle
