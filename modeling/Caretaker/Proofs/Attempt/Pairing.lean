import Caretaker.Proofs.Cycle.Steps

/-!
Attempts under misuse. Whatever is asked of a tracker, a start or an end that is refused leaves
nothing behind, so those that are taken pair up: the attempt that ended as the k-th one is the k-th
one that began.
-/

namespace Caretaker.Attempt

-----------------------------------------------------------------------------
-- What is asked of a tracker

/-- What can be asked of a tracker of attempts. -/
inductive Call where
  | start (now : Stamp)
  | finish (code : Int32) (now : Stamp)

/-- What comes of it. -/
inductive Reply where
  | started (outcome : Except Misuse Unit)
  | finished (outcome : Except Misuse Record)

/-- Ask something of a tracker. -/
def Call.perform (tracker : Tracker) : Call → Program Site (Reply × Tracker)
  | .start now => do
    match ← begin tracker now with
    | .ok opened => return (.started (.ok ()), opened)
    | .error misuse => return (.started (.error misuse), tracker)
  | .finish code now => do
    match ← conclude tracker code now with
    | .ok (record, closed) => return (.finished (.ok record), closed)
    | .error misuse => return (.finished (.error misuse), tracker)

/-- Something that was asked of a tracker, with what was said and what came of it. -/
structure Turn where
  call : Call
  events : List (Event Site)
  reply : Reply

/-- What has been asked of a tracker since it was new, in order, and what has become of it. -/
inductive History : List Turn → Tracker → Prop where
  | new : History [] {}
  | next {turns : List Turn} {tracker after : Tracker} {call : Call} {events : List (Event Site)}
      {reply : Reply} (earlier : History turns tracker)
      (ran : Runs (call.perform tracker) events (reply, after))
      : History (turns ++ [⟨call, events, reply⟩]) after

/-- Whether a call was taken. -/
def Reply.isTaken : Reply → Bool
  | .started (.ok _) | .finished (.ok _) => true
  | .started (.error _) | .finished (.error _) => false

/-- An attempt that was ended: with which code and at which time, and the record of it. -/
structure Ending where
  code : Int32
  time : Stamp
  record : Record

namespace Turn

/-- The time of a start that was taken. -/
def begun? (turn : Turn) : Option Stamp :=
  match turn.call, turn.reply with
  | .start now, .started (.ok _) => some now
  | _, _ => none

/-- What came of an end that was taken. -/
def ended? (turn : Turn) : Option Ending :=
  match turn.call, turn.reply with
  | .finish code now, .finished (.ok record) => some ⟨code, now, record⟩
  | _, _ => none

end Turn

/-- The times of the starts that were taken, in order. -/
def begunIn (turns : List Turn) : List Stamp :=
  turns.filterMap Turn.begun?

/-- What came of the ends that were taken, in order. -/
def endedIn (turns : List Turn) : List Ending :=
  turns.filterMap Turn.ended?

variable {tracker after : Tracker} {turns : List Turn} {turn : Turn} {events : List (Event Site)}
variable {reply : Reply} {now : Stamp} {code : Int32}

theorem begunIn_concat (turns : List Turn) (turn : Turn)
    : begunIn (turns ++ [turn]) = begunIn turns ++ turn.begun?.toList := by
  rw [begunIn, List.filterMap_append]
  cases isStart : turn.begun? <;> simp [isStart, begunIn]

theorem endedIn_concat (turns : List Turn) (turn : Turn)
    : endedIn (turns ++ [turn]) = endedIn turns ++ turn.ended?.toList := by
  rw [endedIn, List.filterMap_append]
  cases isEnd : turn.ended? <;> simp [isEnd, endedIn]

-----------------------------------------------------------------------------
-- What one call comes to

theorem perform_start_runs_iff
    : Runs ((Call.start now).perform tracker) events (reply, after)
      ↔ (tracker.startedAt = none ∧ events = [begunLine now] ∧ reply = .started (.ok ())
          ∧ after = ⟨some now⟩)
        ∨ (tracker.isOpen ∧ events = [startRefusedLine]
          ∧ reply = .started (.error .alreadyOpen) ∧ after = tracker) := by
  obtain ⟨_ | startedAt⟩ := tracker
  · exact Site.say_then_runs_iff.trans (by simp [Tracker.isOpen, begunLine])
  · exact Site.say_then_runs_iff.trans (by simp [Tracker.isOpen, startRefusedLine])

theorem perform_finish_runs_iff
    : Runs ((Call.finish code now).perform tracker) events (reply, after)
      ↔ (∃ startedAt, tracker.startedAt = some startedAt
          ∧ events = [endedLine (.between startedAt now code)]
          ∧ reply = .finished (.ok (.between startedAt now code)) ∧ after = ⟨none⟩)
        ∨ (tracker.startedAt = none ∧ events = [endRefusedLine code]
          ∧ reply = .finished (.error .notOpen) ∧ after = tracker) := by
  obtain ⟨_ | startedAt⟩ := tracker
  · exact Site.say_then_runs_iff.trans (by simp [endRefusedLine])
  · exact Site.say_then_runs_iff.trans (by simp [endedLine])

/-- Whether a call is in its place: a start while no attempt is open, an end while one is. -/
def Call.suits (tracker : Tracker) : Call → Prop
  | .start _ => tracker.isOpen = false
  | .finish .. => tracker.isOpen = true

/-- What comes of a call that is out of its place. -/
def Call.refusal : Call → Reply
  | .start _ => .started (.error .alreadyOpen)
  | .finish .. => .finished (.error .notOpen)

/-- A call comes to one thing only. It is taken if it is in its place, and otherwise everything
stays as it is.
-/
theorem Call.comes_to (tracker : Tracker) (call : Call)
    : ∃ lines reply after,
      (∀ events answer left, Runs (call.perform tracker) events (answer, left)
        ↔ events = lines ∧ answer = reply ∧ left = after)
      ∧ (reply.isTaken = true ↔ call.suits tracker)
      ∧ (reply.isTaken = false → reply = call.refusal ∧ after = tracker) := by
  cases call with
  | start now =>
    cases isOpen : tracker.startedAt with
    | none =>
      refine ⟨[begunLine now], .started (.ok ()), ⟨some now⟩, ?_, ?_,
        fun refused => Bool.noConfusion refused⟩
      · simp [perform_start_runs_iff, Tracker.isOpen, isOpen]
      · simp [Reply.isTaken, suits, Tracker.isOpen, isOpen]
    | some startedAt =>
      refine ⟨[startRefusedLine], .started (.error .alreadyOpen), tracker, ?_, ?_,
        fun _ => ⟨rfl, rfl⟩⟩
      · simp [perform_start_runs_iff, Tracker.isOpen, isOpen]
      · simp [Reply.isTaken, suits, Tracker.isOpen, isOpen]
  | finish code now =>
    cases isOpen : tracker.startedAt with
    | none =>
      refine ⟨[endRefusedLine code], .finished (.error .notOpen), tracker, ?_, ?_,
        fun _ => ⟨rfl, rfl⟩⟩
      · simp [perform_finish_runs_iff, isOpen]
      · simp [Reply.isTaken, suits, Tracker.isOpen, isOpen]
    | some startedAt =>
      refine ⟨[endedLine (.between startedAt now code)],
        .finished (.ok (.between startedAt now code)), ⟨none⟩, ?_, ?_,
        fun refused => Bool.noConfusion refused⟩
      · simp [perform_finish_runs_iff, isOpen]
      · simp [Reply.isTaken, suits, Tracker.isOpen, isOpen]

-----------------------------------------------------------------------------
-- Starts and ends in pairs

/-- Starts and ends that were taken pair up: the starts are those of the attempts that have ended,
in order, and of the one that is open.
-/
structure Pairs (turns : List Turn) (tracker : Tracker) : Prop where
  starts : begunIn turns = (endedIn turns).map (·.record.startedAt) ++ tracker.startedAt.toList
  records : ∀ e ∈ endedIn turns, e.record = .between e.record.startedAt e.time e.code

namespace Pairs

theorem new : Pairs [] {} where
  starts := rfl
  records := nofun

/-- What is refused adds nothing. -/
theorem aside (pairs : Pairs turns tracker) (noStart : turn.begun? = none)
    (noEnd : turn.ended? = none)
    : Pairs (turns ++ [turn]) tracker where
  starts := by
    rw [begunIn_concat, endedIn_concat, noStart, noEnd, Option.toList_none, List.append_nil,
      Option.toList_none, List.append_nil]
    exact pairs.starts
  records := by
    rw [endedIn_concat, noEnd, Option.toList_none, List.append_nil]
    exact pairs.records

/-- Whatever is asked of a tracker, starts and ends pair up. By cases over what is asked. -/
theorem next {call : Call} (pairs : Pairs turns tracker)
    (ran : Runs (call.perform tracker) events (reply, after))
    : Pairs (turns ++ [⟨call, events, reply⟩]) after := by
  cases call with
  | start now =>
    rcases perform_start_runs_iff.1 ran with ⟨closed, rfl, rfl, rfl⟩ | ⟨-, rfl, rfl, rfl⟩
    · have starts := pairs.starts
      rw [closed, Option.toList_none, List.append_nil] at starts
      refine ⟨?_, ?_⟩
      · simp [begunIn_concat, endedIn_concat, Turn.begun?, Turn.ended?, starts]
      · simpa [endedIn_concat, Turn.ended?] using pairs.records
    · exact pairs.aside rfl rfl
  | finish code now =>
    rcases perform_finish_runs_iff.1 ran with ⟨startedAt, isOpen, rfl, rfl, rfl⟩ |
      ⟨-, rfl, rfl, rfl⟩
    · -- The start of the attempt that was open becomes that of the last record.
      have starts := pairs.starts
      rw [isOpen, Option.toList_some] at starts
      refine ⟨?_, ?_⟩
      · simp [begunIn_concat, endedIn_concat, Turn.begun?, Turn.ended?, starts, Record.between]
      · intro e member
        rw [endedIn_concat, List.mem_append] at member
        rcases member with before | last
        · exact pairs.records e before
        · cases List.mem_singleton.1 last
          rfl
    · exact pairs.aside rfl rfl

/-- There is one start more than ends while an attempt is open, and otherwise there are as many. -/
theorem length_begunIn (pairs : Pairs turns tracker)
    : (begunIn turns).length = (endedIn turns).length + if tracker.isOpen then 1 else 0 := by
  rw [pairs.starts, List.length_append, List.length_map, Tracker.isOpen]
  cases tracker.startedAt <;> rfl

/-- The k-th attempt that ended began with the k-th start. -/
theorem getElem?_begunIn (pairs : Pairs turns tracker) {k : Nat} {ending : Ending}
    (isEnding : (endedIn turns)[k]? = some ending)
    : (begunIn turns)[k]? = some ending.record.startedAt := by
  have inRange := (List.getElem?_eq_some_iff.1 isEnding).1
  rw [pairs.starts, List.getElem?_append_left (by rwa [List.length_map]), List.getElem?_map,
    isEnding, Option.map_some]

end Pairs

/-- Starts and ends pair up all along, by induction over what was asked. -/
theorem History.pairs (history : History turns tracker) : Pairs turns tracker := by
  induction history with
  | new => exact .new
  | next _ ran ih => exact ih.next ran

/-- However a tracker is used, a start is taken if no attempt is open and an end if one is, and what
is refused changes nothing. The k-th end that is taken gives the record of the attempt that began
with the k-th start, with the time and the code of this end, and there is one start more than ends
just while an attempt is open. The duration in a record is the true time between the two, as long as
this time fits in 32 bits, and an attempt went well if it was ended with the code for that.
-/
theorem attempts_pair_up (history : History turns tracker)
    : (∀ call : Call, ∃ lines reply after,
        (∀ events answer left, Runs (call.perform tracker) events (answer, left)
          ↔ events = lines ∧ answer = reply ∧ left = after)
        ∧ (reply.isTaken = true ↔ call.suits tracker)
        ∧ (reply.isTaken = false → reply = call.refusal ∧ after = tracker))
      ∧ (begunIn turns).length = (endedIn turns).length + (if tracker.isOpen then 1 else 0)
      ∧ ∀ (k : Nat) (ending : Ending), (endedIn turns)[k]? = some ending → ∃ startedAt : Stamp,
        (begunIn turns)[k]? = some startedAt
        ∧ ending.record = ⟨startedAt, ending.time, Stamp.since startedAt ending.time, ending.code⟩
        ∧ (∀ start finish, startedAt = .ofMillis start → ending.time = .ofMillis finish
          → start ≤ finish → finish - start < UInt32.size
          → ending.record.duration.toNat = finish - start)
        ∧ (ending.record.isSuccess = true ↔ ending.code = 0) := by
  have pairs := history.pairs
  refine ⟨Call.comes_to tracker, pairs.length_begunIn, ?_⟩
  intro k ending isEnding
  have isBetween := pairs.records ending (List.mem_of_getElem? isEnding)
  refine ⟨ending.record.startedAt, pairs.getElem?_begunIn isEnding, isBetween, ?_, ?_⟩
  · intro start finish isStart isFinish ordered short
    rw [isBetween, isStart, isFinish]
    exact Stamp.since_ofMillis ordered short
  · rw [isBetween, Record.isSuccess, decide_eq_true_eq]
    exact .rfl

/-- An attempt that goes on while the clock starts over, with a second start and a second end that
are refused.
-/
theorem attempts_pair_up_rollover
    : ∃ turns, History turns {} ∧ turns.length = 4 ∧ begunIn turns = [.ofMillis 4294967290]
      ∧ ∃ ending, (endedIn turns)[0]? = some ending ∧ ending.record.startedAt = 4294967290
        ∧ ending.record.endedAt = 10 ∧ ending.record.code = (-3 : Int32)
        ∧ ending.record.duration.toNat = 16 ∧ ending.record.isSuccess = false := by
  have starts : Runs ((Call.start 4294967290).perform {}) _ _ :=
    perform_start_runs_iff.2 (.inl ⟨rfl, rfl, rfl, rfl⟩)
  have startsAgain : Runs ((Call.start 5).perform ⟨some 4294967290⟩) _ _ :=
    perform_start_runs_iff.2 (.inr ⟨rfl, rfl, rfl, rfl⟩)
  have ends : Runs ((Call.finish (-3) 10).perform ⟨some 4294967290⟩) _ _ :=
    perform_finish_runs_iff.2 (.inl ⟨_, rfl, rfl, rfl, rfl⟩)
  have endsAgain : Runs ((Call.finish 0 11).perform ⟨none⟩) _ _ :=
    perform_finish_runs_iff.2 (.inr ⟨rfl, rfl, rfl, rfl⟩)
  have refinished := (((History.new.next starts).next startsAgain).next ends).next endsAgain
  obtain ⟨-, -, paired⟩ := attempts_pair_up refinished
  obtain ⟨startedAt, isStart, isRecord, elapsed, success⟩ := paired 0 _ rfl
  cases isStart
  refine ⟨_, refinished, rfl, rfl, _, rfl, rfl, rfl, rfl, ?_, ?_⟩
  · exact elapsed 4294967290 4294967306 rfl rfl (by decide) (by decide)
  · exact Bool.eq_false_iff.2 fun isSuccess => absurd (success.1 isSuccess) (by decide)

end Caretaker.Attempt
