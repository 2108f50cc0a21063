import Caretaker.Cycle
import Caretaker.Proofs.Program.Paths

/-!
What each step of a round asks of its site, with all the answers it may get. A step has one
statement about its runs, so that no later proof opens the step again.
-/

namespace Caretaker

-----------------------------------------------------------------------------
-- What is said at a site

namespace Site

/-- Something was said. -/
def said (level : Log.Level) (origin message : String) : Event Site :=
  ⟨.report (.say ⟨level, some origin, message⟩), ()⟩

/-- What is said about a best-effort request: a line if it failed. -/
def complaint (level : Log.Level) (origin failure : String) : Except Fault Unit → List (Event Site)
  | .ok _ => []
  | .error fault => [said level origin (failure ++ ": " ++ fault.text)]

variable {events : List (Event Site)}

theorem say_runs_iff {level : Log.Level} {origin message : String}
    : Runs (say level origin message : Program Site Unit) events ()
      ↔ events = [said level origin message] :=
  Runs.request_iff

/-- A line, and a value behind it. -/
theorem say_then_runs_iff {α : Type} {level : Log.Level} {origin message : String} {a b : α}
    : Runs ((do say level origin message; return a) : Program Site α) events b
      ↔ events = [said level origin message] ∧ b = a :=
  Runs.then_done_iff.trans (and_congr_left' say_runs_iff)

theorem tolerate_runs_iff {level : Log.Level} {origin failure : String}
    {answer : Except Fault Unit}
    : Runs (tolerate level origin failure answer : Program Site Unit) events ()
      ↔ events = complaint level origin failure answer := by
  cases answer with
  | ok _ => exact Runs.done_iff.trans (and_iff_left rfl)
  | error fault => exact say_runs_iff

end Site

-----------------------------------------------------------------------------
-- Attempts

namespace Attempt

open Site

variable {tracker : Tracker} {time : Stamp} {code : Int32} {events : List (Event Site)}

/-- What is said when an attempt begins. -/
def begunLine (time : Stamp) : Event Site :=
  said .debug origin ("OTA session started at " ++ toString time.toNat ++ "ms")

/-- What is said when an attempt ends. -/
def endedLine (record : Record) : Event Site :=
  said .info origin ("OTA session ended: result=" ++ toString record.code.toInt ++ " duration="
    ++ toString record.duration.toNat ++ "ms")

/-- What is said when a start is refused. -/
def startRefusedLine : Event Site :=
  said .error origin ("OTA session start ignored: " ++ Misuse.alreadyOpen.message)

/-- What is said when an end is refused. -/
def endRefusedLine (code : Int32) : Event Site :=
  said .error origin ("OTA session end(" ++ toString code.toInt ++ ") ignored: "
    ++ Misuse.notOpen.message)

/-- An attempt begins unless one is open. -/
theorem begin_runs_iff {answer : Except Misuse Tracker}
    : Runs (begin tracker time : Program Site _) events answer
      ↔ (tracker.startedAt = none ∧ events = [begunLine time] ∧ answer = .ok ⟨some time⟩)
        ∨ (tracker.isOpen ∧ events = [startRefusedLine] ∧ answer = .error .alreadyOpen) := by
  obtain ⟨_ | startedAt⟩ := tracker
  · exact (say_then_runs_iff.trans (by simp [Tracker.isOpen, begunLine]))
  · exact (say_then_runs_iff.trans (by simp [Tracker.isOpen, startRefusedLine]))

/-- An attempt ends if one is open. -/
theorem conclude_runs_iff {answer : Except Misuse (Record × Tracker)}
    : Runs (conclude tracker code time : Program Site _) events answer
      ↔ (∃ startedAt, tracker.startedAt = some startedAt
          ∧ events = [endedLine (.between startedAt time code)]
          ∧ answer = .ok (.between startedAt time code, ⟨none⟩))
        ∨ (tracker.startedAt = none ∧ events = [endRefusedLine code]
          ∧ answer = .error .notOpen) := by
  obtain ⟨_ | startedAt⟩ := tracker
  · exact (say_then_runs_iff.trans (by simp [endRefusedLine]))
  · exact (say_then_runs_iff.trans (by simp [endedLine]))

theorem begin_runs_of_closed (closed : tracker.startedAt = none) {answer : Except Misuse Tracker}
    (h : Runs (begin tracker time : Program Site _) events answer)
    : events = [begunLine time] ∧ answer = .ok ⟨some time⟩ := by
  rcases begin_runs_iff.1 h with ⟨-, same⟩ | ⟨isOpen, -⟩
  · exact same
  · rw [Tracker.isOpen, closed] at isOpen
    cases isOpen

theorem conclude_runs_of_open {startedAt : Stamp} (isOpen : tracker.startedAt = some startedAt)
    {answer : Except Misuse (Record × Tracker)}
    (h : Runs (conclude tracker code time : Program Site _) events answer)
    : events = [endedLine (.between startedAt time code)]
      ∧ answer = .ok (.between startedAt time code, ⟨none⟩) := by
  rcases conclude_runs_iff.1 h with ⟨startedAt', began, same⟩ | ⟨closed, -⟩
  · cases isOpen.symm.trans began
    exact same
  · cases isOpen.symm.trans closed

end Attempt

/-- What is said when a failure comes with a code of success. -/
def Outcome.codeRemark (code : Int32) : List (Event Site) :=
  if 0 ≤ code then
    [Site.said .warn "update"
      ("Update failure reported with non-negative code " ++ toString code.toInt)]
  else
    []

theorem Outcome.fail_runs_iff {code : Int32} {events : List (Event Site)} {outcome : Outcome}
    : Runs (Outcome.fail code) events outcome
      ↔ events = codeRemark code ∧ outcome = .failed (failureCode code) := by
  unfold Outcome.fail codeRemark
  split
  · exact Site.say_then_runs_iff
  · exact Runs.done_iff

-----------------------------------------------------------------------------
-- The steps of a round

namespace Cycle.Step

open Site

variable {cycle after : Cycle} {events : List (Event Site)}

theorem site_runs_iff {α : Type} {p : Program Site α} {a : α}
    : Runs ((site p).run cycle) events (a, after) ↔ Runs p events a ∧ after = cycle := by
  rw [site, StateT.run_lift]
  refine Runs.bind_done_iff.trans ?_
  constructor
  · intro h
    obtain ⟨b, ran, same⟩ := h
    cases same
    exact ⟨ran, rfl⟩
  · intro h
    obtain ⟨ran, rfl⟩ := h
    exact ⟨a, ran, rfl⟩

/-- A request to the site leaves the cycle as it is. -/
theorem request_runs_iff {r : Request} {answer : Answer r}
    : Runs ((site (Program.request r)).run cycle) events (answer, after)
      ↔ events = [⟨r, answer⟩] ∧ after = cycle :=
  site_runs_iff.trans (and_congr_left' Runs.request_iff)

theorem pure_runs_iff {α : Type} {a b : α}
    : Runs ((pure a : Step α).run cycle) events (b, after)
      ↔ events = [] ∧ b = a ∧ after = cycle := by
  rw [StateT.run_pure, Program.pure_eq_done, Runs.done_iff, Prod.mk.injEq]

/-- A step that looks at the cycle first runs as the step for what it sees. -/
theorem get_bind_run {α : Type} (f : Cycle → Step α)
    : ((get : Step Cycle) >>= f).run cycle = (f cycle).run cycle := by
  rw [StateT.run_bind, StateT.run_get, pure_bind]

/-- A step that changes the cycle first runs as the step behind it from the changed cycle. -/
theorem modify_bind_run {α : Type} (change : Cycle → Cycle) (f : PUnit → Step α)
    : ((modify change : Step PUnit) >>= f).run cycle = (f ⟨⟩).run (change cycle) := by
  rw [StateT.run_bind, StateT.run_modify, pure_bind]

/-- A step that is taken under a condition, with another one behind it in any case. -/
theorem when_runs {α : Type} {condition : Bool} {x : Step Unit} {f : Unit → Step α} {a : α}
    (h : Runs ((if condition = true then x >>= f else f ()).run cycle) events (a, after))
    : ∃ first second middle, events = first ++ second
      ∧ Runs ((if condition = true then x else pure ()).run cycle) first ((), middle)
      ∧ Runs ((f ()).run middle) second (a, after) := by
  cases condition with
  | true =>
    rw [if_pos rfl, Runs.state_bind_iff] at h
    obtain ⟨first, second, ⟨⟩, middle, rfl, taken, rest⟩ := h
    exact ⟨first, second, middle, rfl, taken, rest⟩
  | false => exact ⟨[], events, cycle, rfl, .done _, h⟩

theorem tell_runs_iff {level : Log.Level} {message : String}
    : Runs ((tell level message).run cycle) events ((), after)
      ↔ events = [said level origin message] ∧ after = cycle :=
  site_runs_iff.trans (and_congr_left' say_runs_iff)

/-- A best-effort program runs, and a line follows if it fails. -/
theorem bestEffort_runs {level : Log.Level} {failure : String}
    {p : Program Site (Except Fault Unit)}
    (h : Runs ((bestEffort level failure p).run cycle) events ((), after))
    : ∃ first answer, events = first ++ complaint level origin failure answer
      ∧ Runs p first answer ∧ after = cycle := by
  obtain ⟨ran, same⟩ := site_runs_iff.1 h
  obtain ⟨first, second, answer, rfl, tried, rest⟩ := Runs.bind_iff.1 ran
  exact ⟨first, answer, congrArg (first ++ ·) (tolerate_runs_iff.1 rest), tried, same⟩

/-- What is asked in counting something. -/
def tallied (counter : Counter) (answer : Except Fault Unit) : List (Event Site) :=
  ⟨.report (.count counter), answer⟩
    :: complaint .warn origin ("Failed to record " ++ counter.name ++ " metric") answer

theorem tally_runs {counter : Counter} (h : Runs ((tally counter).run cycle) events ((), after))
    : ∃ answer, events = tallied counter answer ∧ after = cycle := by
  obtain ⟨first, answer, rfl, counted, same⟩ := bestEffort_runs h
  obtain rfl := Runs.request_iff.1 counted
  exact ⟨answer, rfl, same⟩

/-- Counting something goes on in this way whatever comes of it. -/
theorem runs_tallied {counter : Counter} {answer : Except Fault Unit}
    : Runs ((tally counter).run cycle) (tallied counter answer) ((), cycle) :=
  site_runs_iff.2
    ⟨(Runs.bind_iff_of (Runs.request_iff.2 rfl)).2 (tolerate_runs_iff.2 rfl), rfl⟩

theorem display_runs {lamp : Lamp} (h : Runs ((display lamp).run cycle) events ((), after))
    : events = [⟨.light lamp, ()⟩] ∧ after = { cycle with lamp := lamp } := by
  rw [display, modify_bind_run] at h
  exact request_runs_iff.1 h

/-- A failure ends a look for a release with the code under which it is recorded. -/
theorem failing_runs {code : Int32} {outcome : Option Outcome}
    (h : Runs ((do return some (← site (Outcome.fail code)) : Step (Option Outcome)).run cycle)
      events (outcome, after))
    : events = Outcome.codeRemark code ∧ outcome = some (.failed (Outcome.failureCode code))
      ∧ after = cycle := by
  rw [Runs.state_bind_iff] at h
  obtain ⟨remark, rest, reason, middle, rfl, failing, h⟩ := h
  obtain ⟨failed, rfl⟩ := site_runs_iff.1 failing
  obtain ⟨rfl, rfl⟩ := Outcome.fail_runs_iff.1 failed
  obtain ⟨rfl, rfl, rfl⟩ := pure_runs_iff.1 h
  exact ⟨List.append_nil _, rfl, rfl⟩

-----------------------------------------------------------------------------
-- An attempt within a round

/-- What is asked when an attempt begins. -/
def begun (time : Stamp) : List (Event Site) :=
  [⟨.now, time⟩, Attempt.begunLine time]

theorem beginAttempt_runs (closed : cycle.attempt.startedAt = none)
    (h : Runs (beginAttempt.run cycle) events ((), after))
    : ∃ time, events = begun time ∧ after = { cycle with attempt := ⟨some time⟩ } := by
  rw [beginAttempt, Runs.state_bind_iff] at h
  obtain ⟨first, rest, time, middle, rfl, reading, h⟩ := h
  obtain ⟨rfl, rfl⟩ := request_runs_iff.1 reading
  rw [get_bind_run, Runs.state_bind_iff] at h
  obtain ⟨line, last, answer, middle, rfl, beginning, h⟩ := h
  obtain ⟨began, rfl⟩ := site_runs_iff.1 beginning
  obtain ⟨rfl, rfl⟩ := Attempt.begin_runs_of_closed closed began
  obtain ⟨rfl, same⟩ := Runs.done_iff.1 h
  cases same
  exact ⟨time, rfl, rfl⟩

/-- What is asked when an attempt ends and its record is handed in. -/
def ended (record : Attempt.Record) (handedIn : Except Fault Unit) : List (Event Site) :=
  [⟨.now, record.endedAt⟩, Attempt.endedLine record, ⟨.report (.attempt record), handedIn⟩]
    ++ complaint .warn origin "Failed to record OTA session" handedIn

theorem endAttempt_runs {code : Int32} {startedAt : Stamp}
    (isOpen : cycle.attempt.startedAt = some startedAt)
    (h : Runs ((endAttempt code).run cycle) events ((), after))
    : ∃ endedAt handedIn, events = ended (.between startedAt endedAt code) handedIn
      ∧ after = { cycle with attempt := {} } := by
  rw [endAttempt, Runs.state_bind_iff] at h
  obtain ⟨first, rest, time, middle, rfl, reading, h⟩ := h
  obtain ⟨rfl, rfl⟩ := request_runs_iff.1 reading
  rw [get_bind_run, Runs.state_bind_iff] at h
  obtain ⟨line, last, answer, middle, rfl, concluding, h⟩ := h
  obtain ⟨concluded, rfl⟩ := site_runs_iff.1 concluding
  obtain ⟨rfl, rfl⟩ := Attempt.conclude_runs_of_open isOpen concluded
  rw [modify_bind_run] at h
  obtain ⟨handing, answer, rfl, handed, same⟩ := bestEffort_runs h
  obtain rfl := Runs.request_iff.1 handed
  exact ⟨time, answer, rfl, same⟩

/-- What is asked once a release has been found. -/
def foundEvents (release : Release) (time : Stamp) : List (Event Site) :=
  [⟨.light .blue, ()⟩, said .info origin ("Starting OTA download of " ++ release.version ++ " ...")]
    ++ begun time

theorem found_runs {release : Release} (closed : cycle.attempt.startedAt = none)
    (h : Runs ((found release).run cycle) events ((), after))
    : ∃ time, events = foundEvents release time ∧ after = ⟨⟨some time⟩, .blue⟩ := by
  rw [found, Runs.state_bind_iff] at h
  obtain ⟨first, rest, ⟨⟩, middle, rfl, shown, h⟩ := h
  obtain ⟨rfl, rfl⟩ := display_runs shown
  rw [Runs.state_bind_iff] at h
  obtain ⟨line, rest, ⟨⟩, middle, rfl, told, began⟩ := h
  obtain ⟨rfl, rfl⟩ := tell_runs_iff.1 told
  have stillClosed : ({ cycle with lamp := .blue } : Cycle).attempt.startedAt = none := closed
  obtain ⟨time, rfl, rfl⟩ := beginAttempt_runs stillClosed began
  exact ⟨time, rfl, rfl⟩

/-- What is asked once a release has been installed, before the restart. -/
def partingEvents (record : Attempt.Record) (handedIn marked : Except Fault Unit)
    : List (Event Site) :=
  said .info origin "OTA Update Complete, Rebooting System" :: ended record handedIn
    ++ ⟨.mark .firmwareUpdate, marked⟩
      :: complaint .error origin "Failed to persist reboot marker" marked

/-- What is asked once a release has been installed. -/
def installedEvents (record : Attempt.Record) (handedIn marked : Except Fault Unit)
    : List (Event Site) :=
  partingEvents record handedIn marked ++ [⟨.restart .firmwareUpdate, ()⟩]

theorem installed_runs {startedAt : Stamp} (isOpen : cycle.attempt.startedAt = some startedAt)
    (h : Runs (installed.run cycle) events ((), after))
    : ∃ endedAt handedIn marked,
        events = installedEvents (.between startedAt endedAt Attempt.succeeded) handedIn marked
        ∧ after = { cycle with attempt := {} } := by
  rw [installed, Runs.state_bind_iff] at h
  obtain ⟨line, rest, ⟨⟩, middle, rfl, told, h⟩ := h
  obtain ⟨rfl, rfl⟩ := tell_runs_iff.1 told
  rw [Runs.state_bind_iff] at h
  obtain ⟨ending, rest, ⟨⟩, middle, rfl, concluded, h⟩ := h
  obtain ⟨endedAt, handedIn, rfl, rfl⟩ := endAttempt_runs isOpen concluded
  rw [Runs.state_bind_iff] at h
  obtain ⟨effort, rest, ⟨⟩, middle, rfl, marking, last⟩ := h
  obtain ⟨first, marked, rfl, tried, rfl⟩ := bestEffort_runs marking
  obtain rfl := Runs.request_iff.1 tried
  obtain ⟨rfl, same⟩ := request_runs_iff.1 last
  exact ⟨endedAt, handedIn, marked, by simp [installedEvents, partingEvents], same⟩

end Cycle.Step

end Caretaker
