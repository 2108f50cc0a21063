import Caretaker.Proofs.Program.Paths

/-!
Programs that are alike but for what they say in passing and for how their best efforts go. Runs of
such programs have the same dealings with their surroundings, as long as these answer alike.
-/

namespace Caretaker

variable {S : Signature} {α β : Type}

/-- How much a request matters to the one who makes it. -/
inductive Weight where
  /-- It is made in passing and may as well be left out. -/
  | remark
  /-- It is made, but nothing depends on the answer. -/
  | effort
  /-- The answer matters. -/
  | question

/-- A request, with its answer if that matters. -/
structure Dealing (S : Signature) where
  request : S.Request
  answer : Option (S.Answer request)

/-- What matters of an event. -/
def Event.dealing? (weight : S.Request → Weight) (e : Event S) : Option (Dealing S) :=
  match weight e.request with
  | .remark => none
  | .effort => some ⟨e.request, none⟩
  | .question => some ⟨e.request, some e.answer⟩

/-- What matters of some events. -/
def dealings (weight : S.Request → Weight) (events : List (Event S)) : List (Dealing S) :=
  events.filterMap (Event.dealing? weight)

/-- The surroundings answer alike in two runs: after the same dealings, the same question gets the
same answer.
-/
def AnswerAlike (one other : List (Dealing S)) : Prop :=
  ∀ past r a b rest rest',
    one = past ++ ⟨r, some a⟩ :: rest → other = past ++ ⟨r, some b⟩ :: rest' → a = b

/-- Two programs ask the same questions and make the same efforts, whatever becomes of the efforts.
-/
inductive Alike (weight : S.Request → Weight) : Program S α → Program S α → Prop where
  | done (a : α) : Alike weight (.done a) (.done a)
  | remarkLeft {r : S.Request} {k : S.Answer r → Program S α} {q : Program S α}
      (isRemark : weight r = .remark) (rest : ∀ answer, Alike weight (k answer) q)
      : Alike weight (.ask r k) q
  | remarkRight {r : S.Request} {p : Program S α} {k : S.Answer r → Program S α}
      (isRemark : weight r = .remark) (rest : ∀ answer, Alike weight p (k answer))
      : Alike weight p (.ask r k)
  | effort {r : S.Request} {k k' : S.Answer r → Program S α} (isEffort : weight r = .effort)
      (rest : ∀ answer answer', Alike weight (k answer) (k' answer'))
      : Alike weight (.ask r k) (.ask r k')
  | question {r : S.Request} {k k' : S.Answer r → Program S α} (isQuestion : weight r = .question)
      (rest : ∀ answer, Alike weight (k answer) (k' answer))
      : Alike weight (.ask r k) (.ask r k')

section

variable {weight : S.Request → Weight} {r : S.Request}

-----------------------------------------------------------------------------
-- Dealings

@[simp]
theorem dealings_nil : dealings weight [] = [] := rfl

@[simp]
theorem dealings_append (first second : List (Event S))
    : dealings weight (first ++ second) = dealings weight first ++ dealings weight second :=
  List.filterMap_append

theorem dealings_cons_remark {answer : S.Answer r} {events : List (Event S)}
    (isRemark : weight r = .remark)
    : dealings weight (⟨r, answer⟩ :: events) = dealings weight events := by
  rw [dealings, List.filterMap_cons, Event.dealing?, isRemark]
  rfl

theorem dealings_cons_effort {answer : S.Answer r} {events : List (Event S)}
    (isEffort : weight r = .effort)
    : dealings weight (⟨r, answer⟩ :: events) = ⟨r, none⟩ :: dealings weight events := by
  rw [dealings, List.filterMap_cons, Event.dealing?, isEffort]
  rfl

theorem dealings_cons_question {answer : S.Answer r} {events : List (Event S)}
    (isQuestion : weight r = .question)
    : dealings weight (⟨r, answer⟩ :: events) = ⟨r, some answer⟩ :: dealings weight events := by
  rw [dealings, List.filterMap_cons, Event.dealing?, isQuestion]
  rfl

/-- The answer to a question is in the dealings if it has been given. -/
theorem question_of_mem_dealings {answer : S.Answer r} {events : List (Event S)}
    (member : ⟨r, some answer⟩ ∈ dealings weight events)
    : weight r = .question ∧ ⟨r, answer⟩ ∈ events := by
  obtain ⟨⟨asked, given⟩, isEvent, isDealing⟩ := List.mem_filterMap.1 member
  cases isWeight : weight asked with
  | remark | effort =>
    rw [Event.dealing?, isWeight] at isDealing
    cases isDealing
  | question =>
    rw [Event.dealing?, isWeight] at isDealing
    cases isDealing
    exact ⟨isWeight, isEvent⟩

namespace AnswerAlike

variable {one other more more' : List (Dealing S)}

theorem first {a b : S.Answer r}
    (same : AnswerAlike (⟨r, some a⟩ :: one) (⟨r, some b⟩ :: other))
    : a = b :=
  same [] r a b one other rfl rfl

theorem behind (past : List (Dealing S)) (same : AnswerAlike (past ++ one) (past ++ other))
    : AnswerAlike one other := by
  intro amid r a b rest rest' isOne isOther
  apply same (past ++ amid) r a b rest rest'
  · rw [isOne, List.append_assoc]
  · rw [isOther, List.append_assoc]

theorem before (same : AnswerAlike (one ++ more) (other ++ more')) : AnswerAlike one other := by
  intro past r a b rest rest' isOne isOther
  apply same past r a b (rest ++ more) (rest' ++ more')
  · rw [isOne, List.append_assoc, List.cons_append]
  · rw [isOther, List.append_assoc, List.cons_append]

/-- Surroundings answer alike if each of them always gives the same answer to a question, and
both give the same one.
-/
theorem of_same {answer answer' : (r : S.Request) → S.Answer r} {events events' : List (Event S)}
    (same : ∀ r, weight r = .question → answer r = answer' r)
    (given : ∀ e ∈ events, e.answer = answer e.request)
    (given' : ∀ e ∈ events', e.answer = answer' e.request)
    : AnswerAlike (dealings weight events) (dealings weight events') := by
  intro past r a b rest rest' isOne isOther
  have inOne : (⟨r, some a⟩ : Dealing S) ∈ dealings weight events := by
    rw [isOne]
    exact List.mem_append_right _ (List.mem_cons_self ..)
  have inOther : (⟨r, some b⟩ : Dealing S) ∈ dealings weight events' := by
    rw [isOther]
    exact List.mem_append_right _ (List.mem_cons_self ..)
  obtain ⟨isQuestion, asked⟩ := question_of_mem_dealings inOne
  obtain ⟨-, asked'⟩ := question_of_mem_dealings inOther
  calc
    a = answer r := given _ asked
    _ = answer' r := same r isQuestion
    _ = b := (given' _ asked').symm

end AnswerAlike

-----------------------------------------------------------------------------
-- Alike programs

namespace Alike

variable {p q : Program S α}

/-- Alike programs stay alike with alike programs behind them, by induction over how they are
alike.
-/
theorem bind {f g : α → Program S β} (alike : Alike weight p q)
    (rest : ∀ a, Alike weight (f a) (g a))
    : Alike weight (p >>= f) (q >>= g) := by
  induction alike with
  | done a => exact rest a
  | remarkLeft isRemark _ ih => exact .remarkLeft isRemark fun answer => ih answer
  | remarkRight isRemark _ ih => exact .remarkRight isRemark fun answer => ih answer
  | effort isEffort _ ih => exact .effort isEffort fun answer answer' => ih answer answer'
  | question isQuestion _ ih => exact .question isQuestion fun answer => ih answer

/-- A program without efforts is like itself, by induction over the program. Remarks must have but
one answer, since the two programs may get different ones.
-/
theorem of_only {allowed : S.Request → Prop} (only : p.Only allowed)
    (effortless : ∀ r, allowed r → weight r ≠ .effort)
    (silent : ∀ r, weight r = .remark → Subsingleton (S.Answer r))
    : Alike weight p p := by
  induction p with
  | done a => exact .done a
  | ask r k ih =>
    cases isWeight : weight r with
    | remark =>
      refine .remarkLeft isWeight fun answer => .remarkRight isWeight fun answer' => ?_
      rw [(silent r isWeight).elim answer answer']
      exact ih answer' (only.2 answer')
    | effort => exact absurd isWeight (effortless r only.1)
    | question => exact .question isWeight fun answer => ih answer (only.2 answer)

/-- Runs of alike programs have the same dealings and the same value if the surroundings answer
alike. By induction over how the programs are alike: a remark is in neither list of dealings, an
effort is the first in both whatever its answers are, and a question got the same answer twice.
-/
theorem agree {events events' : List (Event S)} {a b : α} (alike : Alike weight p q)
    (ran : Runs p events a) (ran' : Runs q events' b)
    (same : AnswerAlike (dealings weight events) (dealings weight events'))
    : dealings weight events = dealings weight events' ∧ a = b := by
  induction alike generalizing events events' with
  | done c =>
    obtain ⟨rfl, rfl⟩ := Runs.done_iff.1 ran
    obtain ⟨rfl, rfl⟩ := Runs.done_iff.1 ran'
    exact ⟨rfl, rfl⟩
  | remarkLeft isRemark _ ih =>
    obtain ⟨answer, rest, rfl, tail⟩ := Runs.ask_iff.1 ran
    rw [dealings_cons_remark isRemark] at same ⊢
    exact ih answer tail ran' same
  | remarkRight isRemark _ ih =>
    obtain ⟨answer, rest, rfl, tail⟩ := Runs.ask_iff.1 ran'
    rw [dealings_cons_remark isRemark] at same ⊢
    exact ih answer ran tail same
  | @effort r _ _ isEffort _ ih =>
    obtain ⟨answer, rest, rfl, tail⟩ := Runs.ask_iff.1 ran
    obtain ⟨answer', rest', rfl, tail'⟩ := Runs.ask_iff.1 ran'
    -- The answers may differ, but neither is in the dealings.
    rw [dealings_cons_effort isEffort, dealings_cons_effort isEffort] at same ⊢
    obtain ⟨equal, rfl⟩ := ih answer answer' tail tail' (same.behind [⟨r, none⟩])
    exact ⟨congrArg _ equal, rfl⟩
  | @question r _ _ isQuestion _ ih =>
    obtain ⟨answer, rest, rfl, tail⟩ := Runs.ask_iff.1 ran
    obtain ⟨answer', rest', rfl, tail'⟩ := Runs.ask_iff.1 ran'
    rw [dealings_cons_question isQuestion, dealings_cons_question isQuestion] at same ⊢
    obtain rfl := same.first
    obtain ⟨equal, rfl⟩ := ih answer tail tail' (same.behind [⟨r, some answer⟩])
    exact ⟨congrArg _ equal, rfl⟩

end Alike

end

end Caretaker
