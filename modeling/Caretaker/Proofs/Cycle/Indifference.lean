import Caretaker.Bench
import Caretaker.Proofs.Cycle.Parts
import Caretaker.Proofs.Cycle.Rounds
import Caretaker.Proofs.Evidence.Acts
import Caretaker.Proofs.Program.Alike

/-!
The cycle is indifferent to how its best efforts go: whether the store takes a report or a marker
is left decides nothing about what it asks next, nor about how a round ends.
-/

namespace Caretaker

/-- How much a request to a site matters to the cycle: what is said may be left out, reports to the
store and the marker are best efforts, and everything else is a question.
-/
def Site.weight : Site.Request → Weight
  | .report (.say _) => .remark
  | .report _ | .mark _ => .effort
  | _ => .question

namespace Site

theorem subsingleton_of_remark {r : Request} (isRemark : weight r = .remark)
    : Subsingleton (Answer r) := by
  cases r with
  | report report =>
    cases report with
    | say => exact inferInstanceAs (Subsingleton Unit)
    | _ => cases isRemark
  | _ => cases isRemark

theorem IsJoining.weight_ne_effort {r : Request} (joining : IsJoining r) : weight r ≠ .effort := by
  cases r with
  | report report =>
    cases report with
    | say => exact nofun
    | _ => exact joining.elim
  | mark => exact joining.elim
  | _ => exact nofun

theorem realize_ask_runs_iff {α : Type} {p : Program Site α} {events : List (Event Site)} {a : α}
    : Runs (p.realize ask) events a ↔ Runs p events a := by
  rw [Runs.realize_iff]
  constructor
  · intro h
    obtain ⟨asked, ran, met⟩ := h
    rwa [met_ask_iff.1 met]
  · intro ran
    exact ⟨events, ran, met_ask_iff.2 rfl⟩

theorem say_alike (level : Log.Level) (origin message : String)
    : Alike (S := Site) weight (say level origin message) (say level origin message) :=
  .remarkLeft rfl fun _ => .remarkRight rfl fun _ => .done ()

theorem tolerate_alike (level : Log.Level) (origin failure : String)
    (answer answer' : Except Fault Unit)
    : Alike (S := Site) weight (tolerate level origin failure answer)
        (tolerate level origin failure answer') := by
  cases answer with
  | ok =>
    cases answer' with
    | ok => exact .done ()
    | error => exact .remarkRight rfl fun _ => .done ()
  | error =>
    cases answer' with
    | ok => exact .remarkLeft rfl fun _ => .done ()
    | error => exact .remarkLeft rfl fun _ => .remarkRight rfl fun _ => .done ()

/-- A best effort with which two programs stay alike that are alike whatever it comes to. -/
theorem effort_alike {r : Request} {α : Type} {f g : Answer r → Program Site α}
    (isEffort : weight r = .effort) (rest : ∀ a b, Alike (S := Site) weight (f a) (g b))
    : Alike weight (Program.request (S := Site) r >>= f) (Program.request (S := Site) r >>= g) :=
  .effort isEffort rest

end Site

namespace Cycle

/-- All parts of a round go on in the same way however the best efforts go. -/
theorem ofParts_alike : OfParts fun p => Alike Site.weight p p where
  done a := .done a
  bind first rest := first.bind rest
  say := Site.say_alike
  ask isAsked := .question (by cases isAsked <;> rfl) fun answer => .done answer
  effort isEffort level failure := by
    have goesOn := Site.tolerate_alike level Step.origin failure
    cases isEffort with
    | count counter => exact Site.effort_alike (r := .report (.count counter)) rfl goesOn
    | attempt record => exact Site.effort_alike (r := .report (.attempt record)) rfl goesOn
    | notice event => exact Site.effort_alike (r := .report (.notice event)) rfl goesOn
    | keepLog => exact Site.effort_alike (r := .report .keepLog) rfl goesOn
    | mark reason => exact Site.effort_alike (r := .mark reason) rfl goesOn
  join isOnline :=
    .of_only (Joining.attempt_only isOnline) (fun _ => Site.IsJoining.weight_ne_effort)
      fun _ => Site.subsingleton_of_remark

-----------------------------------------------------------------------------
-- Rounds and runs

/-- All that matters of a round: the states of the cycle before and behind it, its dealings, and its
result.
-/
def Passage.outline (passage : Passage Site) : Cycle × List (Dealing Site) × Result × Cycle :=
  (passage.before, dealings Site.weight passage.events, passage.result, passage.after)

/-- As many rounds from the same state have the same outlines if the site answers alike. By
induction over the rounds: those behind the first one start from the same state again, and the site
answers alike behind equal dealings.
-/
theorem Rounds.agree {plan : Plan} {cycle last last' : Cycle} {one other : List (Passage Site)}
    (rounds : Rounds Site.ask plan cycle one last)
    (rounds' : Rounds Site.ask plan cycle other last')
    (length : one.length = other.length)
    (same : AnswerAlike (dealings Site.weight (one.flatMap Passage.events))
      (dealings Site.weight (other.flatMap Passage.events)))
    : one.map Passage.outline = other.map Passage.outline ∧ last = last' := by
  induction rounds generalizing other with
  | none cycle =>
    cases rounds' with
    | none => exact ⟨rfl, rfl⟩
    | next => cases length
  | next first rest ih =>
    cases rounds' with
    | none => cases length
    | next first' rest' =>
      rw [List.flatMap_cons, List.flatMap_cons, dealings_append, dealings_append] at same
      obtain ⟨equal, results⟩ := (ofParts_alike.round plan _).agree
        (Site.realize_ask_runs_iff.1 first) (Site.realize_ask_runs_iff.1 first') same.before
      cases results
      rw [equal] at same
      obtain ⟨others, rfl⟩ := ih rest' (Nat.succ.inj length) (same.behind _)
      refine ⟨?_, rfl⟩
      rw [List.map_cons, List.map_cons, others, Passage.outline, Passage.outline, equal]

end Cycle

-----------------------------------------------------------------------------
-- A cycle that runs by itself

/-- How much a request on a bench matters: as much as it does at the site, and all else is a
question.
-/
def Bench.weight : Bench.Request → Weight
  | .site r => Site.weight r
  | _ => .question

namespace Bench

/-- Programs that are alike at the site are alike on a bench around it, by induction over how they
are alike.
-/
theorem realize_alike {α : Type} {p q : Program Site α} (alike : Alike Site.weight p q)
    : Alike (S := Stand) weight (p.realize fun r => ask (.site r))
        (q.realize fun r => ask (.site r)) := by
  induction alike with
  | done a => exact .done a
  | remarkLeft isRemark _ ih => exact .remarkLeft isRemark fun answer => ih answer
  | remarkRight isRemark _ ih => exact .remarkRight isRemark fun answer => ih answer
  | effort isEffort _ ih => exact .effort isEffort fun answer answer' => ih answer answer'
  | question isQuestion _ ih => exact .question isQuestion fun answer => ih answer

theorem say_alike (level : Log.Level) (origin message : String)
    : Alike (S := Stand) weight (say level origin message) (say level origin message) :=
  .remarkLeft rfl fun _ => .remarkRight rfl fun _ => .done ()

/-- A bench around a site that gives the same answer whenever it is asked the same. -/
def around (answer : (r : Site.Request) → Site.Answer r) : (r : Request) → Answer r
  | .pause _ | .replace _ | .acquire | .release | .stuck _ => ()
  | .registry => ⟨0, 0, []⟩
  | .site r => answer r

end Bench

namespace Cycle

theorem turn_alike (plan : Plan) (cycle : Cycle)
    : Alike (S := Bench.Stand) Bench.weight (turn (fun r => Bench.ask (.site r)) plan cycle)
        (turn (fun r => Bench.ask (.site r)) plan cycle) := by
  refine .bind (Bench.realize_alike (ofParts_alike.round plan cycle)) fun ended => ?_
  obtain ⟨result, after⟩ := ended
  cases result with
  | restarting => exact .bind (Bench.say_alike ..) fun _ => .done _
  | offline | checked => exact .question rfl fun _ => .done _

/-- Turns go on in the same way however their best efforts go, by induction over their number. -/
theorem turns_alike (plan : Plan) (limit : Nat) (cycle : Cycle)
    : Alike (S := Bench.Stand) Bench.weight
        (turns (fun r => Bench.ask (.site r)) plan limit cycle)
        (turns (fun r => Bench.ask (.site r)) plan limit cycle) := by
  induction limit generalizing cycle with
  | zero => exact .done _
  | succ limit ih =>
    refine .bind (turn_alike plan cycle) fun turned => ?_
    obtain ⟨goesOn, after⟩ := turned
    cases goesOn with
    | true => exact ih after
    | false => exact .done _

/-- Best efforts decide nothing. As many rounds, or runs of the cycle by itself, that start from the
same state and get the same answers to their questions ask the same, come to the same results and
show the same, whatever becomes of their reports and markers. A store that is closed fails every
report but what is merely said, and stays as it is.
-/
theorem efforts_decide_nothing (plan : Plan)
    : (∀ {cycle last last'} {one other : List (Passage Site)},
        Rounds Site.ask plan cycle one last → Rounds Site.ask plan cycle other last'
        → one.length = other.length
        → AnswerAlike (dealings Site.weight (one.flatMap Passage.events))
            (dealings Site.weight (other.flatMap Passage.events))
        → one.map Passage.outline = other.map Passage.outline ∧ last = last')
      ∧ (∀ {limit cycle events events' ending ending'},
        Runs (run (fun r => Bench.ask (.site r)) plan limit cycle) events ending
        → Runs (run (fun r => Bench.ask (.site r)) plan limit cycle) events' ending'
        → AnswerAlike (dealings Bench.weight events) (dealings Bench.weight events')
        → dealings Bench.weight events = dealings Bench.weight events' ∧ ending = ending')
      ∧ ∀ evidence : Evidence, evidence.isPoisoned = true → ∀ uptime r,
        (evidence.file uptime r).evidence.diagnostics = evidence.diagnostics
        ∧ (evidence.file uptime r).evidence.isPoisoned = true
        ∧ ∀ answer, r.failure? Evidence.poisonedFault = some answer
          → evidence.file uptime r = ⟨answer, evidence, []⟩ := by
  refine ⟨Rounds.agree, ?_, fun _ => Evidence.file_of_poisoned⟩
  intro limit cycle events events' ending ending' ran ran'
  have alike : Alike (S := Bench.Stand) Bench.weight
      (run (fun r => Bench.ask (.site r)) plan limit cycle)
      (run (fun r => Bench.ask (.site r)) plan limit cycle) :=
    .bind (Bench.say_alike ..) fun _ => turns_alike plan limit cycle
  exact alike.agree ran ran'

/-- A site at which all best efforts fail, and which is like another one otherwise. -/
def spoiled (answer : (r : Site.Request) → Site.Answer r) : (r : Site.Request) → Site.Answer r
  | .report (.say _) => ()
  | .report (.count _) | .report (.attempt _) | .report (.notice _) | .report .keepLog
  | .mark _ => .error ⟨"worn out"⟩
  | r => answer r

theorem spoiled_of_question (answer : (r : Site.Request) → Site.Answer r) {r : Site.Request}
    (isQuestion : Site.weight r = .question)
    : answer r = spoiled answer r := by
  cases r with
  | report report => cases report <;> cases isQuestion
  | mark => cases isQuestion
  | _ => rfl

/-- An installation goes the same way at a site that takes every report and the marker as at one
that takes none of them.
-/
theorem efforts_decide_nothing_spoiled
    : ∃ (one other : Passage Site) (events events' : List (Event Bench.Stand))
        (ending ending' : Bool × Cycle),
      Rounds Site.ask ⟨{}, false⟩ {} [one] one.after
      ∧ Rounds Site.ask ⟨{}, false⟩ {} [other] other.after
      ∧ ⟨.mark .firmwareUpdate, .ok ()⟩ ∈ one.events
      ∧ ⟨.mark .firmwareUpdate, .error ⟨"worn out"⟩⟩ ∈ other.events
      ∧ one.outline = other.outline
      ∧ Runs (run (fun r => Bench.ask (.site r)) ⟨{}, false⟩ 1 {}) events ending
      ∧ Runs (run (fun r => Bench.ask (.site r)) ⟨{}, false⟩ 1 {}) events' ending'
      ∧ ending = ending'
      ∧ Evidence.file ⟨.empty none, .journal, .empty, true⟩ 0 .keepLog
        = ⟨.error Evidence.poisonedFault, ⟨.empty none, .journal, .empty, true⟩, []⟩ := by
  let steady := Site.steady (.found ⟨"2.0.0", "http://host/image", none⟩) .staged
  have sameAround (r : Bench.Request) (isQuestion : Bench.weight r = .question)
      : Bench.around steady r = Bench.around (spoiled steady) r := by
    cases r with
    | site r => exact spoiled_of_question steady isQuestion
    | _ => rfl
  have first (answer : (r : Site.Request) → Site.Answer r) := Site.realize_ask_runs_iff.2
    (Runs.follow (S := Site) answer ((round ⟨{}, false⟩).run {}))
  have whole (answer : (r : Bench.Request) → Bench.Answer r) :=
    Runs.follow (S := Bench.Stand) answer (run (fun r => Bench.ask (.site r)) ⟨{}, false⟩ 1 {})
  obtain ⟨rounds, runs, closed⟩ := efforts_decide_nothing ⟨{}, false⟩
  have outlines := rounds (.next (first steady) (.none _))
    (.next (first (spoiled steady)) (.none _)) rfl (by
      rw [List.flatMap_singleton, List.flatMap_singleton]
      exact .of_same (S := Site) (fun _ => spoiled_of_question steady)
        (Program.answer_of_mem_follow (S := Site) steady _)
        (Program.answer_of_mem_follow (S := Site) (spoiled steady) _))
  have endings := runs (whole (Bench.around steady)) (whole (Bench.around (spoiled steady)))
    (.of_same sameAround (Program.answer_of_mem_follow _ _) (Program.answer_of_mem_follow _ _))
  refine ⟨_, _, _, _, _, _, .next (first steady) (.none _),
    .next (first (spoiled steady)) (.none _), ?kept, ?lost, (List.cons.inj outlines.1).1,
    whole _, whole _, endings.2, ?poisoned⟩
  case kept => exact List.mem_of_getElem? (i := 13) rfl
  case lost => exact List.mem_of_getElem? (i := 15) rfl
  case poisoned => exact (closed _ rfl 0 .keepLog).2.2 _ rfl

end Cycle

end Caretaker
