import Caretaker.Proofs.Device.Staging

/-!
Installations are all or nothing. Once the free slot has been opened for an image, each part of it
is written as it was read, up to the end of the body or to the first failure. Then the slot is
completed or aborted, never both and never neither.
-/

namespace Caretaker.Device.Server

open Attempted

variable {α β : Type} {width : Width} {events : List (Event Platform)}

-----------------------------------------------------------------------------
-- Steps of an installation

/-- What an installation does with the body of a response and with the free slot. -/
inductive Step where
  /-- The slot was opened for an image. -/
  | opened
  | read (answer : Except Code (List UInt8))
  | wrote (part : List UInt8) (answer : Except Code Unit)
  | completed (answer : Except Code Unit)
  | aborted (answer : Except Code Unit)

namespace Step

/-- The step that an event is, if it is one. -/
def of? : Event Platform → Option Step
  | ⟨.call .beginUpdate, .ok _⟩ => some .opened
  | ⟨.call (.read ..), answer⟩ => some (.read (answer.map Part.bytes))
  | ⟨.call (.writeUpdate part), answer⟩ => some (.wrote part answer)
  | ⟨.call .completeUpdate, answer⟩ => some (.completed answer)
  | ⟨.call .abortUpdate, answer⟩ => some (.aborted answer)
  | _ => none

/-- The step moves a part of the image, or tries to. -/
def Streams : Step → Prop
  | .read _ | .wrote .. => True
  | _ => False

/-- The step moves a part of the image and fails. -/
def Fails : Step → Prop
  | .read (.error _) | .wrote _ (.error _) => True
  | _ => False

/-- The step closes the slot, or tries to. -/
def Closes : Step → Prop
  | .completed _ | .aborted _ => True
  | _ => False

end Step

/-- The steps of an installation, in order. -/
def stepsOf (events : List (Event Platform)) : List Step :=
  events.filterMap Step.of?

/-- The parts of a body that were read, up to its end. -/
def chunks (steps : List Step) : List (List UInt8) :=
  steps.filterMap fun
    | .read (.ok part) => if part = [] then none else some part
    | _ => none

/-- The parts that were to be written, whether that worked or not. -/
def slices (steps : List Step) : List (List UInt8) :=
  steps.filterMap fun
    | .wrote part _ => some part
    | _ => none

/-- The whole image of a release went into the slot: it was opened, the body came to its end, every
part was written, and the bytes are as many as announced, where there are `count` of them.
-/
structure Whole (release : Release) (count : Nat) (steps : List Step) : Prop where
  opened : .opened ∈ steps
  ended : .read (.ok []) ∈ steps
  written : ∀ part code, .wrote part (.error code) ∉ steps
  size : ∀ size ∈ release.size, size = count

@[simp]
theorem stepsOf_append (first second : List (Event Platform))
    : stepsOf (first ++ second) = stepsOf first ++ stepsOf second :=
  List.filterMap_append

/-- A request that can be a step. -/
def IsStep : Request → Prop
  | .call .beginUpdate | .call (.read ..) | .call (.writeUpdate _) | .call .completeUpdate
  | .call .abortUpdate => True
  | _ => False

theorem stepsOf_eq_nil {p : Program Platform α} {a : α} (only : p.Only (¬ IsStep ·))
    (ran : Runs p events a)
    : stepsOf events = [] := by
  refine List.filterMap_eq_nil_iff.2 fun e member => ?_
  have other := only.of_runs ran e member
  obtain ⟨r, answer⟩ := e
  cases r with
  | call c =>
    cases c with
    | beginUpdate | read | writeUpdate | completeUpdate | abortUpdate => exact absurd trivial other
    | _ => rfl
  | _ => rfl

-----------------------------------------------------------------------------
-- Streaming

/-- How an image is streamed: part by part up to the end of the body, which gives its bytes, or to
the first part that cannot be read or written.
-/
inductive Streaming : List Step → Option (List UInt8) → Prop where
  | ended : Streaming [.read (.ok [])] (some [])
  | unread (code : Code) : Streaming [.read (.error code)] none
  | unwritten (part : List UInt8) (nonempty : part ≠ []) (code : Code)
      : Streaming [.read (.ok part), .wrote part (.error code)] none
  | more {steps : List Step} {image? : Option (List UInt8)} (part : List UInt8)
      (nonempty : part ≠ []) (rest : Streaming steps image?)
      : Streaming (.read (.ok part) :: .wrote part (.ok ()) :: steps) (image?.map (part ++ ·))

/-- An image arrived, and it is as long as announced so far as a word tells. -/
def Fits (width : Width) (announced : Option Nat) (image? : Option (List UInt8)) : Prop :=
  ∃ image, image? = some image ∧ ∀ size ∈ announced, size = image.length % width.values

/-- Part by part an image is streamed, by induction over what is left of it. -/
theorem transfer_streams {left total : Nat} {result : Except Failure Nat}
    (isWord : total < width.values) (ran : Runs (transfer width left total).run events result)
    : ∃ image?, Streaming (stepsOf events) image?
      ∧ (∀ image, image? = some image → result = .ok ((total + image.length) % width.values))
      ∧ (image? = none → ∃ failure, result = .error failure) := by
  induction left, total using transfer.induct width generalizing events with
  | case1 left total ih =>
    rw [transfer] at ran
    rcases call_bind_runs ran Runs.request_iff.1 with ⟨code, rfl, rfl⟩ | ⟨part, rest, rfl, read⟩
    · exact ⟨none, .unread code, by simp, fun _ => ⟨_, rfl⟩⟩
    by_cases ended : part.bytes = []
    · rw [dif_pos ended] at read
      obtain ⟨rfl, rfl⟩ := Runs.done_iff.1 read
      have last : stepsOf [⟨.call (.read imageRoom (some left)), .ok part⟩]
          = [.read (.ok [])] := by
        rw [← ended]
        rfl
      refine ⟨some [], last ▸ .ended, ?_, by simp⟩
      rintro image ⟨⟩
      rw [List.length_nil, Nat.add_zero, Nat.mod_eq_of_lt isWord]
    rw [dif_neg ended] at read
    rcases call_bind_runs read Runs.request_iff.1 with ⟨code, rfl, rfl⟩ | ⟨⟨⟩, rest, rfl, written⟩
    · exact ⟨none, .unwritten part.bytes ended code, by simp, fun _ => ⟨_, rfl⟩⟩
    obtain ⟨image?, streaming, arrived, broke⟩ :=
      ih part ended (Nat.mod_lt _ width.values_pos) written
    refine ⟨_, .more part.bytes ended streaming, ?_, ?_⟩
    · intro image whole
      obtain ⟨rest, rfl, rfl⟩ := Option.map_eq_some_iff.1 whole
      rw [arrived rest rfl, List.length_append, Nat.mod_add_mod, Nat.add_assoc]
    · intro missing
      exact broke (Option.map_eq_none_iff.1 missing)

theorem fits_some_iff {announced : Option Nat} {image : List UInt8}
    : Fits width announced (some image)
      ↔ ∀ size ∈ announced, size = image.length % width.values := by
  simp [Fits]

/-- An image whose size is not the one announced is refused. -/
theorem checkSize_error_iff {announced : Option Nat} {total : Nat} {failure : Failure}
    : Runs (checkSize announced total).run events (.error failure)
      ↔ events = [] ∧ ∃ size ∈ announced, size ≠ total ∧ failure = .wrongSize size total := by
  cases announced with
  | none =>
    refine iff_of_false (fun ran => ?_) (by simp)
    cases (Runs.done_iff.1 ran).2
  | some size =>
    rw [checkSize]
    by_cases same : size = total
    · rw [if_pos same]
      refine iff_of_false (fun ran => ?_) (by simp [same])
      cases (Runs.done_iff.1 ran).2
    · rw [if_neg same]
      refine Runs.done_iff.trans (and_congr_right' ?_)
      simp [same]

/-- What is streamed is kept if it fits and is a failure otherwise. -/
theorem transferAll_streams {announced : Option Nat} {length : Nat} {result : Except Failure Nat}
    (ran : Runs (transferAll width announced length).run events result)
    : ∃ image?, Streaming (stepsOf events) image?
      ∧ (Fits width announced image? ∧ (∃ total, result = .ok total)
        ∨ ¬ Fits width announced image? ∧ ∃ failure, result = .error failure) := by
  rw [transferAll, Runs.except_bind_iff] at ran
  rcases ran with ⟨failure, rfl, broken⟩ | ⟨first, rest, total, rfl, transferred, ran⟩
  · obtain ⟨image?, streaming, arrived, -⟩ := transfer_streams width.values_pos broken
    refine ⟨image?, streaming, .inr ⟨?_, failure, rfl⟩⟩
    rintro ⟨image, whole, -⟩
    cases arrived image whole
  · obtain ⟨image?, streaming, arrived, broke⟩ := transfer_streams width.values_pos transferred
    cases image? with
    | none =>
      obtain ⟨failure, same⟩ := broke rfl
      cases same
    | some image =>
      obtain rfl : total = image.length % width.values := by simpa using arrived image rfl
      rw [Runs.except_bind_iff] at ran
      rcases ran with ⟨failure, rfl, misfit⟩ | ⟨first, rest, ⟨⟩, rfl, fit, ran⟩
      · obtain ⟨rfl, size, isSize, other, -⟩ := checkSize_error_iff.1 misfit
        refine ⟨some image, by simpa using streaming, .inr ⟨?_, failure, rfl⟩⟩
        exact fun fits => other (fits_some_iff.1 fits size isSize)
      · obtain ⟨rfl, fits⟩ := checkSize_runs_iff.1 fit
        obtain ⟨rfl, rfl⟩ := Runs.done_iff.1 ran
        refine ⟨some image, ?_, .inl ⟨fits_some_iff.2 fits, _, rfl⟩⟩
        simpa using streaming

-----------------------------------------------------------------------------
-- The slot

/-- How the slot is closed behind an image, with the result: it is completed if the image fits, and
aborted otherwise. The result is a success only if the slot was completed.
-/
inductive Closing (width : Width) (announced : Option Nat) (image? : Option (List UInt8))
    : Step → Except Failure Nat → Prop where
  | completed (fits : Fits width announced image?) (total : Nat)
      : Closing width announced image? (.completed (.ok ())) (.ok total)
  | incomplete (fits : Fits width announced image?) (code : Code) (failure : Failure)
      : Closing width announced image? (.completed (.error code)) (.error failure)
  | aborted (unfit : ¬ Fits width announced image?) (answer : Except Code Unit) (failure : Failure)
      : Closing width announced image? (.aborted answer) (.error failure)

theorem abort_steps (ran : Runs abort events ())
    : ∃ answer, stepsOf events = [.aborted answer] := by
  obtain ⟨answer, rest, rfl, told⟩ := Runs.ask_iff.1 ran
  have silent : stepsOf rest = [] := by
    refine stepsOf_eq_nil ?_ told
    cases answer with
    | ok _ => trivial
    | error code => exact Program.Only.request_iff.2 id
  exact ⟨answer, congrArg (Step.aborted answer :: ·) silent⟩

/-- Behind what is streamed into the slot it is closed. -/
theorem fill_steps {release : Release} {response : Response} {result : Except Failure Nat}
    (ran : Runs (fill width release response).run events result)
    : ∃ streaming image? closing, stepsOf events = streaming ++ [closing]
      ∧ Streaming streaming image? ∧ Closing width release.size image? closing result := by
  obtain ⟨first, rest, outcome, rfl, transferred, ran⟩ := sure_bind_iff.1 ran
  obtain ⟨image?, streaming, ⟨fits, total, rfl⟩ | ⟨unfit, failure, rfl⟩⟩ :=
    transferAll_streams transferred
  · rcases call_bind_runs ran Runs.request_iff.1 with ⟨code, rfl, rfl⟩ | ⟨⟨⟩, rest, rfl, last⟩
    · exact ⟨_, image?, _, stepsOf_append .., streaming, .incomplete fits code _⟩
    · obtain ⟨rfl, rfl⟩ := Runs.done_iff.1 last
      exact ⟨_, image?, _, stepsOf_append .., streaming, .completed fits total⟩
  · obtain ⟨closing, rest, ⟨⟩, rfl, aborted, last⟩ := sure_bind_iff.1 ran
    obtain ⟨rfl, rfl⟩ := Runs.done_iff.1 last
    obtain ⟨answer, closes⟩ := abort_steps aborted
    refine ⟨_, image?, _, ?_, streaming, .aborted unfit answer failure⟩
    rw [List.append_nil, stepsOf_append, closes]

/-- The slot is not opened behind this: a call on the way to it failed, or the server answered with
another status than success.
-/
def Prevents : Event Platform → Prop
  | ⟨.call (.connect ..), .error _⟩ | ⟨.call (.get ..), .error _⟩ | ⟨.call .submit, .error _⟩
  | ⟨.call .openSlot, .error _⟩ | ⟨.call .beginUpdate, .error _⟩ => True
  | ⟨.call .submit, .ok response⟩ => response.status ≠ 200
  | _ => False

/-- Nothing has been done with the slot, since something prevented it from being opened. -/
def Prevented (events : List (Event Platform)) : Prop :=
  stepsOf events = [] ∧ ∃ e ∈ events, Prevents e

theorem Prevented.single {e : Event Platform} (prevents : Prevents e) (stepless : Step.of? e = none)
    : Prevented [e] :=
  ⟨by rw [stepsOf, List.filterMap_cons, stepless]; rfl, e, List.mem_singleton_self e, prevents⟩

theorem Prevented.behind (first : List (Event Platform)) {rest : List (Event Platform)}
    (stepless : stepsOf first = []) (prevented : Prevented rest)
    : Prevented (first ++ rest) := by
  obtain ⟨idle, e, member, prevents⟩ := prevented
  exact ⟨by rw [stepsOf_append, stepless, idle]; rfl, e, List.mem_append_right _ member, prevents⟩

theorem request_failing {purpose url : String} {headers : List (String × String)}
    {failure : Failure} (ran : Runs (request purpose url headers).run events (.error failure))
    : Prevented events := by
  cases request_iff.1 ran with
  | unasked code => exact .single trivial rfl
  | unanswered code => exact .behind [_] rfl (.single trivial rfl)
  | refused response status => exact .behind [_] rfl (.single status rfl)

/-- Unless the slot has been opened nothing is done with it, call by call on the way to it. -/
theorem prepare_failing {release : Release} {failure : Failure}
    (ran : Runs (prepare release).run events (.error failure))
    : Prevented events := by
  rw [prepare, connect] at ran
  rcases call_bind_runs ran Runs.request_iff.1 with ⟨code, rfl, -⟩ | ⟨⟨⟩, rest, rfl, connected⟩
  · exact .single trivial rfl
  refine .behind [_] rfl ?_
  rcases Runs.except_bind_iff.1 connected with
    ⟨_, -, failed⟩ | ⟨asking, rest, response, rfl, asked, answered⟩
  · exact request_failing failed
  obtain rfl := (request_iff.1 asked).events_eq
  refine .behind _ rfl ?_
  rcases call_bind_runs answered Runs.request_iff.1 with ⟨code, rfl, -⟩ | ⟨⟨⟩, rest, rfl, opened⟩
  · exact .single trivial rfl
  refine .behind [_] rfl ?_
  rcases call_bind_runs opened Runs.request_iff.1 with ⟨code, rfl, -⟩ | ⟨⟨⟩, rest, rfl, last⟩
  · exact .single trivial rfl
  · cases (Runs.done_iff.1 last).2

/-- How an installation ends, by the result of its download. -/
def installationOf : Except Failure Nat → Installation
  | .ok _ => .staged
  | .error _ => .failed installFailure

/-- An installation is prevented, or it opens the slot, streams the image and closes the slot. -/
theorem install_steps {release : Release} {installation : Installation}
    (ran : Runs (install width release) events installation)
    : (Prevented events ∧ installation = .failed installFailure)
      ∨ ∃ streaming image? closing result,
        stepsOf events = .opened :: (streaming ++ [closing])
        ∧ Streaming streaming image?
        ∧ Closing width release.size image? closing result
        ∧ installation = installationOf result := by
  rw [install, download_eq, Runs.bind_iff] at ran
  obtain ⟨downloading, telling, result, rfl, downloaded, told⟩ := ran
  have answered : stepsOf telling = [] ∧ installation = installationOf result := by
    cases result with
    | ok total =>
      obtain ⟨said, rfl⟩ := Runs.then_done_iff.1 told
      exact ⟨stepsOf_eq_nil (Program.Only.request_iff.2 id) said, rfl⟩
    | error failure =>
      obtain ⟨said, rfl⟩ := Runs.then_done_iff.1 told
      exact ⟨stepsOf_eq_nil (Program.Only.request_iff.2 id) said, rfl⟩
  obtain ⟨silent, installed⟩ := answered
  rcases Runs.except_bind_iff.1 downloaded with
    ⟨failure, rfl, unprepared⟩ | ⟨preparing, filling, response, rfl, prepared, filled⟩
  · obtain ⟨idle, e, member, prevents⟩ := prepare_failing unprepared
    refine .inl ⟨⟨?_, e, List.mem_append_left _ member, prevents⟩, installed⟩
    rw [stepsOf_append, idle, silent, List.append_nil]
  · obtain rfl := prepare_runs prepared
    obtain ⟨streaming, image?, closing, steps, streams, closes⟩ := fill_steps filled
    refine .inr ⟨streaming, image?, closing, result, ?_, streams, closes, installed⟩
    rw [stepsOf_append, stepsOf_append, steps, silent, List.append_nil]
    rfl

-----------------------------------------------------------------------------
-- All or nothing

theorem chunks_more {part : List UInt8} (nonempty : part ≠ []) {answer : Except Code Unit}
    {steps : List Step}
    : chunks (.read (.ok part) :: .wrote part answer :: steps) = part :: chunks steps := by
  simp [chunks, nonempty]

namespace Streaming

variable {steps : List Step} {image? : Option (List UInt8)}

theorem streams (streaming : Streaming steps image?) : ∀ step ∈ steps, step.Streams := by
  induction streaming with
  | ended | unread | unwritten => simp [Step.Streams]
  | more part nonempty _ ih => simpa [Step.Streams] using ih

/-- Nothing is streamed behind a step that fails, by induction over the parts. -/
theorem stops (streaming : Streaming steps image?)
    : steps.Pairwise fun earlier later => earlier.Fails → ¬ later.Streams := by
  induction streaming with
  | ended | unread => exact List.pairwise_singleton ..
  | unwritten => simp [Step.Fails]
  | more part nonempty _ ih => simpa [Step.Fails] using ih

/-- Streaming does not stop before the end of the body or a failure, by induction over the parts. -/
theorem lasts (streaming : Streaming steps image?)
    : .read (.ok []) ∈ steps ∨ ∃ step ∈ steps, step.Fails := by
  induction streaming with
  | ended => exact .inl (List.mem_singleton_self _)
  | unread => exact .inr ⟨_, List.mem_singleton_self _, trivial⟩
  | unwritten => exact .inr ⟨_, List.mem_of_getElem? (i := 1) rfl, trivial⟩
  | more _ _ _ ih =>
    refine ih.imp (fun ended => .tail _ (.tail _ ended)) ?_
    rintro ⟨step, member, fails⟩
    exact ⟨step, .tail _ (.tail _ member), fails⟩

/-- What was to be written is what was read, by induction over the parts. -/
theorem slices_eq (streaming : Streaming steps image?) : slices steps = chunks steps := by
  induction streaming with
  | ended | unread => rfl
  | unwritten part nonempty =>
    rw [chunks_more nonempty]
    rfl
  | more part nonempty _ ih => exact (congrArg (part :: ·) ih).trans (chunks_more nonempty).symm

/-- The bytes of an image arrived if the body came to its end and all of it was written, by
induction over the parts.
-/
theorem eq_some_iff (streaming : Streaming steps image?) {image : List UInt8}
    : image? = some image
      ↔ .read (.ok []) ∈ steps ∧ (∀ part code, .wrote part (.error code) ∉ steps)
        ∧ image = (chunks steps).flatten := by
  induction streaming generalizing image with
  | ended => simp [chunks, eq_comm]
  | unread => simp
  | unwritten => simp
  | @more steps image? part nonempty rest ih =>
    rw [chunks_more nonempty, Option.map_eq_some_iff]
    constructor
    · rintro ⟨behind, whole, rfl⟩
      obtain ⟨ended, written, rfl⟩ := ih.1 whole
      exact ⟨by simp [ended], by simpa using written, rfl⟩
    · rintro ⟨ended, written, rfl⟩
      have ended : .read (.ok []) ∈ steps := by simpa [nonempty] using ended
      exact ⟨_, ih.2 ⟨ended, by simpa using written, rfl⟩, rfl⟩

end Streaming

/-- Opening and closing the slot moves no part of the image. -/
theorem chunks_amid {streaming : List Step} {closing : Step} (closes : closing.Closes)
    : chunks (.opened :: (streaming ++ [closing])) = chunks streaming := by
  cases closing <;> simp_all [chunks, Step.Closes]

theorem slices_amid {streaming : List Step} {closing : Step} (closes : closing.Closes)
    : slices (.opened :: (streaming ++ [closing])) = slices streaming := by
  cases closing <;> simp_all [slices, Step.Closes]

/-- The whole image went into the slot exactly if what was streamed fits. -/
theorem Streaming.whole_iff {release : Release} {streaming : List Step} {closing : Step}
    {image? : Option (List UInt8)} (streams : Streaming streaming image?) (closes : closing.Closes)
    : Whole release ((chunks streaming).flatten.length % width.values)
        (.opened :: (streaming ++ [closing]))
      ↔ Fits width release.size image? := by
  constructor
  · rintro ⟨-, ended, written, size⟩
    refine ⟨_, streams.eq_some_iff.2 ⟨?_, ?_, rfl⟩, size⟩
    · cases closing <;> simp_all [Step.Closes]
    · intro part code member
      exact written part code (by simp [member])
  · rintro ⟨image, whole, size⟩
    obtain ⟨ended, written, rfl⟩ := streams.eq_some_iff.1 whole
    refine ⟨by simp, by simp [ended], ?_, size⟩
    cases closing <;> simp_all [Step.Closes]

theorem Step.Closes.not_streams {step : Step} (closes : step.Closes) : ¬ step.Streams := by
  cases step <;> simp_all [Step.Streams, Step.Closes]

/-- Only the last step of an installation closes the slot. -/
theorem Streaming.closing_mem_iff {streaming : List Step} {image? : Option (List UInt8)}
    {closing step : Step} (streams : Streaming streaming image?) (closes : step.Closes)
    : step ∈ .opened :: (streaming ++ [closing]) ↔ step = closing := by
  have elsewhere : step ∉ streaming := by
    intro member
    exact closes.not_streams (streams.streams step member)
  have other : step ≠ .opened := by
    rintro rfl
    exact closes
  simp [elsewhere, other]

theorem Closing.closes {announced : Option Nat} {image? : Option (List UInt8)} {closing : Step}
    {result : Except Failure Nat} (h : Closing width announced image? closing result)
    : closing.Closes := by
  cases h <;> trivial

-----------------------------------------------------------------------------
-- Whole installations

variable {release : Release} {installation : Installation}

/-- What is written into the slot is what is read of the body, and nothing is moved behind a step
that fails.
-/
theorem install_copies (ran : Runs (install width release) events installation)
    : slices (stepsOf events) = chunks (stepsOf events)
      ∧ (stepsOf events).Pairwise (fun earlier later => earlier.Fails → ¬ later.Streams) := by
  rcases install_steps ran with
    ⟨⟨idle, -⟩, -⟩ | ⟨streaming, image?, closing, result, isSteps, streams, closes, -⟩
  · rw [idle]
    exact ⟨rfl, .nil⟩
  · rw [isSteps]
    constructor
    · rw [slices_amid closes.closes, chunks_amid closes.closes, streams.slices_eq]
    · refine List.pairwise_cons.2 ⟨fun _ _ fails => fails.elim, ?_⟩
      refine List.pairwise_append.2 ⟨streams.stops, List.pairwise_singleton .., ?_⟩
      intro _ _ last isLast _ moves
      obtain rfl := List.mem_singleton.1 isLast
      exact closes.closes.not_streams moves

/-- A slot that is not opened is left alone, and one that is opened is closed behind all that is
moved.
-/
theorem install_closes (ran : Runs (install width release) events installation)
    : let steps := stepsOf events
      (.opened ∉ steps → steps = [] ∧ ∃ e ∈ events, Prevents e)
      ∧ (.opened ∈ steps → ∃ streaming closing, steps = .opened :: (streaming ++ [closing])
        ∧ (∀ step ∈ streaming, step.Streams)
        ∧ (.read (.ok []) ∈ streaming ∨ ∃ step ∈ streaming, step.Fails)
        ∧ closing.Closes) := by
  intro steps
  rcases install_steps ran with
    ⟨⟨idle, prevented⟩, -⟩ | ⟨streaming, image?, closing, result, isSteps, streams, closes, -⟩
  · exact ⟨fun _ => ⟨idle, prevented⟩, fun opened => by simp [steps, idle] at opened⟩
  · refine ⟨fun unopened => absurd ?_ unopened, fun _ => ?_⟩
    · simp [steps, isSteps]
    · exact ⟨streaming, closing, isSteps, streams.streams, streams.lasts, closes.closes⟩

/-- The slot is completed if the whole image went into it, and aborted otherwise, where the bytes
are counted in a word. The installation is a success only if the slot was completed.
-/
theorem install_completes (ran : Runs (install width release) events installation)
    : let steps := stepsOf events
      let count := (chunks steps).flatten.length
      ((∃ answer, .completed answer ∈ steps) ↔ Whole release (count % width.values) steps)
      ∧ ((∃ answer, .aborted answer ∈ steps)
        ↔ .opened ∈ steps ∧ ¬ Whole release (count % width.values) steps)
      ∧ (installation = .staged ↔ .completed (.ok ()) ∈ steps)
      ∧ (installation ≠ .staged → installation = .failed (-3)) := by
  intro steps count
  rcases install_steps ran with
    ⟨⟨idle, -⟩, rfl⟩ | ⟨streaming, image?, closing, result, isSteps, streams, closes, rfl⟩
  · have unopened : ¬ Whole release (count % width.values) [] := fun whole => nomatch whole.opened
    simp only [steps, idle]
    simp [unopened, installFailure]
  · have whole_iff : Whole release (count % width.values) (.opened :: (streaming ++ [closing]))
        ↔ Fits width release.size image? := by
      simp only [count, steps, isSteps, chunks_amid closes.closes]
      exact streams.whole_iff closes.closes
    have completes (answer : Except Code Unit)
        : .completed answer ∈ .opened :: (streaming ++ [closing]) ↔ .completed answer = closing :=
      streams.closing_mem_iff trivial
    have aborts (answer : Except Code Unit)
        : .aborted answer ∈ .opened :: (streaming ++ [closing]) ↔ .aborted answer = closing :=
      streams.closing_mem_iff trivial
    simp only [steps, isSteps, completes, aborts, whole_iff]
    cases closes with
    | completed fits total => simp [fits, installationOf]
    | incomplete fits code failure => simp [fits, installationOf, installFailure]
    | aborted unfit answer failure => simp [unfit, installationOf, installFailure]

/-- The slot took what was to be written, unless some of it could not be written. By induction over
the events.
-/
theorem written_eq_slices (unfailed : ∀ part code, .wrote part (.error code) ∉ stepsOf events)
    : written events = (slices (stepsOf events)).flatten := by
  induction events with
  | nil => rfl
  | cons e events ih =>
    rw [← List.singleton_append, stepsOf_append] at unfailed
    have behind := ih fun part code member => unfailed part code (List.mem_append_right _ member)
    obtain ⟨r, answer⟩ := e
    cases r with
    | call c =>
      cases c with
      | writeUpdate bytes =>
        cases answer with
        | ok _ => exact congrArg (bytes ++ ·) behind
        | error code => exact absurd (List.mem_append_left _ (.head _)) (unfailed bytes code)
      | beginUpdate => cases answer <;> exact behind
      | _ => exact behind
    | _ => exact behind

/-- In a slot that can be addressed no more bytes are written than a word counts. -/
theorem whole_iff_of_addressable (copied : slices (stepsOf events) = chunks (stepsOf events))
    (addressable : Addressable width (written events))
    : let count := (chunks (stepsOf events)).flatten.length
      Whole release count (stepsOf events)
        ↔ Whole release (count % width.values) (stepsOf events) := by
  intro count
  have same (unfailed : ∀ part code, .wrote part (.error code) ∉ stepsOf events)
      : count % width.values = count := by
    rw [Addressable, written_eq_slices unfailed, copied] at addressable
    exact Nat.mod_eq_of_lt addressable
  constructor
  · intro whole
    rwa [same whole.written]
  · intro whole
    rwa [same whole.written] at whole

/-- Installations are all or nothing. What is written into the slot is what is read of the body,
part by part and up to the first failure. A slot that has been opened is closed behind that, just
once: it is completed if the whole image went into it, and aborted if not. An installation is a
success if the slot was completed and a failure with one and the same code otherwise. The image is
as long as announced: to the byte, since the slot can be addressed, and in any slot so far as a word
tells.
-/
theorem installs_all_or_nothing (ran : Runs (install width release) events installation)
    : let steps := stepsOf events
      let count := (chunks steps).flatten.length
      slices steps = chunks steps
      ∧ steps.Pairwise (fun earlier later => earlier.Fails → ¬ later.Streams)
      ∧ (.opened ∉ steps → steps = [] ∧ ∃ e ∈ events, Prevents e)
      ∧ (.opened ∈ steps → ∃ streaming closing, steps = .opened :: (streaming ++ [closing])
        ∧ (∀ step ∈ streaming, step.Streams)
        ∧ (.read (.ok []) ∈ streaming ∨ ∃ step ∈ streaming, step.Fails)
        ∧ closing.Closes)
      ∧ (Addressable width (written events)
        → ((∃ answer, .completed answer ∈ steps) ↔ Whole release count steps)
          ∧ ((∃ answer, .aborted answer ∈ steps) ↔ .opened ∈ steps ∧ ¬ Whole release count steps))
      ∧ ((∃ answer, .completed answer ∈ steps) ↔ Whole release (count % width.values) steps)
      ∧ ((∃ answer, .aborted answer ∈ steps)
        ↔ .opened ∈ steps ∧ ¬ Whole release (count % width.values) steps)
      ∧ (installation = .staged ↔ .completed (.ok ()) ∈ steps)
      ∧ (installation ≠ .staged → installation = .failed (-3)) := by
  intro steps count
  obtain ⟨copied, stops⟩ := install_copies ran
  obtain ⟨unopened, opened⟩ := install_closes ran
  obtain ⟨completes, aborts, staged, failed⟩ := install_completes ran
  refine ⟨copied, stops, unopened, opened, fun addressable => ?_, completes, aborts, staged, failed⟩
  have exactly : Whole release count steps ↔ Whole release (count % width.values) steps :=
    whole_iff_of_addressable copied addressable
  rw [exactly]
  exact ⟨completes, aborts⟩

/-- An obliging platform with an image of two bytes, except that it cannot abort. -/
def cutShort (past : List (Event Platform)) : (r : Request) → Option (Answer r)
  | .call .abortUpdate => some (.error ⟨-1⟩)
  | r => obliging [] [1, 2] past r

theorem installs_all_or_nothing_cut_short
    : ∃ events, Runs (install .bits32 ⟨"2", "u", some 3⟩) events (.failed (-3))
      ∧ slices (stepsOf events) = [[1, 2]]
      ∧ Addressable .bits32 (written events)
      ∧ ¬ Whole ⟨"2", "u", some 3⟩ 2 (stepsOf events)
      ∧ (∃ answer, .aborted answer ∈ stepsOf events)
      ∧ .completed (.ok ()) ∉ stepsOf events := by
  let release : Release := ⟨"2", "u", some 3⟩
  let path := (install .bits32 release).pursue cutShort []
  have ended : path.2.getLeft? = some (.failed (-3)) := by decide +kernel
  have arrived : chunks (stepsOf path.1) = [[1, 2]] := by decide +kernel
  have wrote : written path.1 = [1, 2] := by decide +kernel
  have addressable : Addressable .bits32 (written path.1) := by
    rw [wrote]
    decide
  have ran := Runs.pursue (Sum.getLeft?_eq_some_iff.1 ended)
  obtain ⟨copied, -, unopened, -, exactly, -, -, staged, -⟩ := installs_all_or_nothing ran
  obtain ⟨-, aborts⟩ := exactly addressable
  rw [arrived] at aborts
  have lacking : ¬ Whole release 2 (stepsOf path.1) := by
    intro whole
    cases whole.size 3 rfl
  have opened : .opened ∈ stepsOf path.1 := by
    refine Classical.byContradiction fun closed => ?_
    obtain ⟨nothing, -⟩ := unopened closed
    rw [nothing] at arrived
    cases arrived
  refine ⟨path.1, ran, copied.trans arrived, addressable, lacking, aborts.2 ⟨opened, lacking⟩, ?_⟩
  intro finished
  cases staged.2 finished

end Caretaker.Device.Server
