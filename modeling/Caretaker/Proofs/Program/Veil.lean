import Caretaker.Proofs.Program.Alike

/-!
A veil hides a part of what is asked and answered. Twins are programs that look the same behind it
as long as the answers they get look the same, so that nobody who sees only what the veil lets
through can tell a run of one from a run of the other.
-/

namespace Caretaker

variable {S T : Signature} {α β γ δ : Type}

theorem AnswerAlike.refl (dealings : List (Dealing S)) : AnswerAlike dealings dealings := by
  intro past r a b rest rest' isOne isOther
  rw [isOne] at isOther
  cases List.append_cancel_left isOther
  rfl

/-- What can be seen of requests and of their answers. -/
structure Veil (S : Signature) where
  /-- The requests that may be made behind the veil. -/
  Admits : S.Request → Prop
  /-- What can be seen of a request. -/
  request : S.Request → S.Request
  /-- What can be seen of a request together with its answer. -/
  event : Event S → Event S
  request_event : ∀ e, (event e).request = request e.request

namespace Veil

variable {v : Veil S} {r r' : S.Request}

/-- What can be seen of an event, as a dealing. -/
def dealing (v : Veil S) (e : Event S) : Dealing S :=
  ⟨(v.event e).request, some (v.event e).answer⟩

/-- What can be seen of some events. -/
def dealings (v : Veil S) (events : List (Event S)) : List (Dealing S) :=
  events.map v.dealing

/-- Two requests that may be made look the same. -/
structure Likens (v : Veil S) (r r' : S.Request) : Prop where
  admits : v.Admits r
  admits' : v.Admits r'
  same : v.request r = v.request r'

/-- Answers to two requests look the same. -/
def Matches (v : Veil S) (r r' : S.Request) (a : S.Answer r) (a' : S.Answer r') : Prop :=
  v.event ⟨r, a⟩ = v.event ⟨r', a'⟩

/-- A request may be made, and all of its answer can be seen. -/
structure Shows (v : Veil S) (r : S.Request) : Prop where
  admits : v.Admits r
  injective : ∀ a b, v.Matches r r a b → a = b

@[simp]
theorem dealings_nil : v.dealings [] = [] := rfl

@[simp]
theorem dealings_cons (e : Event S) (events : List (Event S))
    : v.dealings (e :: events) = v.dealing e :: v.dealings events := rfl

@[simp]
theorem dealings_append (first second : List (Event S))
    : v.dealings (first ++ second) = v.dealings first ++ v.dealings second :=
  List.map_append

theorem matches_of_eq {a b : S.Answer r} (same : a = b) : v.Matches r r a b :=
  congrArg (fun a => v.event ⟨r, a⟩) same

/-- Where the surroundings answer alike, the answers to two first requests that look the same look
the same.
-/
theorem matches_of_alike {a : S.Answer r} {a' : S.Answer r'} {one other : List (Dealing S)}
    (likens : v.Likens r r')
    (alike : AnswerAlike (v.dealing ⟨r, a⟩ :: one) (v.dealing ⟨r', a'⟩ :: other))
    : v.Matches r r' a a' := by
  have requests : (v.event ⟨r, a⟩).request = (v.event ⟨r', a'⟩).request := by
    rw [v.request_event, v.request_event]
    exact likens.same
  unfold Matches
  unfold dealing at alike
  generalize v.event ⟨r, a⟩ = e at requests alike ⊢
  generalize v.event ⟨r', a'⟩ = e' at requests alike ⊢
  obtain ⟨seen, answer⟩ := e
  obtain ⟨seen', answer'⟩ := e'
  obtain rfl : seen = seen' := requests
  exact congrArg (Event.mk seen) alike.first

theorem dealing_eq_of_matches {a : S.Answer r} {a' : S.Answer r'} (same : v.Matches r r' a a')
    : v.dealing ⟨r, a⟩ = v.dealing ⟨r', a'⟩ := by
  rw [dealing, dealing, show v.event ⟨r, a⟩ = v.event ⟨r', a'⟩ from same]

/-- Surroundings answer alike if each of them always gives the same answer to a request, and their
answers to requests that look the same do too.
-/
theorem alike_of_given {answer answer' : (r : S.Request) → S.Answer r}
    {events events' : List (Event S)}
    (same : ∀ r r', v.request r = v.request r' → v.Matches r r' (answer r) (answer' r'))
    (given : ∀ e ∈ events, e.answer = answer e.request)
    (given' : ∀ e ∈ events', e.answer = answer' e.request)
    : AnswerAlike (v.dealings events) (v.dealings events') := by
  intro past r a b rest rest' isOne isOther
  have inOne : (⟨r, some a⟩ : Dealing S) ∈ v.dealings events := by
    rw [isOne]
    exact List.mem_append_right _ (List.mem_cons_self ..)
  have inOther : (⟨r, some b⟩ : Dealing S) ∈ v.dealings events' := by
    rw [isOther]
    exact List.mem_append_right _ (List.mem_cons_self ..)
  obtain ⟨e, member, seen⟩ := List.mem_map.1 inOne
  obtain ⟨e', member', seen'⟩ := List.mem_map.1 inOther
  have requests : v.request e.request = v.request e'.request :=
    calc
      v.request e.request = (v.event e).request := (v.request_event e).symm
      _ = r := congrArg Dealing.request seen
      _ = (v.event e').request := (congrArg Dealing.request seen').symm
      _ = v.request e'.request := v.request_event e'
  have matched := same e.request e'.request requests
  rw [← given e member, ← given' e' member'] at matched
  have dealings : v.dealing e = v.dealing e' := dealing_eq_of_matches matched
  rw [seen, seen'] at dealings
  cases dealings
  rfl

end Veil

/-- A veil conceals which of two programs runs: their runs look the same and end with related values
if the surroundings answer alike.
-/
def Veil.Conceals (v : Veil S) (R : α → β → Prop) (p : Program S α) (q : Program S β) : Prop :=
  ∀ {events events' a b}, Runs p events a → Runs q events' b
    → AnswerAlike (v.dealings events) (v.dealings events')
    → v.dealings events = v.dealings events' ∧ R a b

/-- Programs that ask the same behind a veil, go on as twins wherever their answers look the same,
and end with related values.
-/
inductive Twin (v : Veil S) (R : α → β → Prop) : Program S α → Program S β → Prop where
  | done {a : α} {b : β} (related : R a b) : Twin v R (.done a) (.done b)
  | ask {r r' : S.Request} {k : S.Answer r → Program S α} {k' : S.Answer r' → Program S β}
      (likens : v.Likens r r') (rest : ∀ a a', v.Matches r r' a a' → Twin v R (k a) (k' a'))
      : Twin v R (.ask r k) (.ask r' k')

namespace Twin

variable {v : Veil S} {R : α → β → Prop} {Q : γ → δ → Prop} {p : Program S α} {q : Program S β}

/-- Twins with twins behind them are twins, by induction over how they are twins. -/
theorem bind {f : α → Program S γ} {g : β → Program S δ} (twin : Twin v R p q)
    (rest : ∀ a b, R a b → Twin v Q (f a) (g b))
    : Twin v Q (p >>= f) (q >>= g) := by
  induction twin with
  | done related => exact rest _ _ related
  | ask likens _ ih => exact .ask likens fun a a' same => ih a a' same

theorem mono {R' : α → β → Prop} (twin : Twin v R p q) (weaker : ∀ a b, R a b → R' a b)
    : Twin v R' p q := by
  induction twin with
  | done related => exact .done (weaker _ _ related)
  | ask likens _ ih => exact .ask likens fun a a' same => ih a a' same

/-- Twins that end with the same value have any one program behind them that is its own twin. -/
theorem bind_eq {p q : Program S α} {f : α → Program S β} {Q : β → β → Prop} (twin : Twin v Eq p q)
    (rest : ∀ a, Twin v Q (f a) (f a))
    : Twin v Q (p >>= f) (q >>= f) := by
  refine twin.bind fun a b same => ?_
  subst same
  exact rest a

/-- One request, with nothing behind it. -/
theorem request {r r' : S.Request} (likens : v.Likens r r')
    : Twin v (v.Matches r r') (Program.request r) (Program.request r') :=
  .ask likens fun _ _ same => .done same

/-- A program is its own twin if all of its answers can be seen, by induction over the program. -/
theorem of_only {p : Program S α} (only : p.Only v.Shows) : Twin v Eq p p := by
  induction p with
  | done a => exact .done rfl
  | ask r k ih =>
    refine .ask ⟨only.1.admits, only.1.admits, rfl⟩ fun a a' same => ?_
    obtain rfl := only.1.injective a a' same
    exact ih a (only.2 a)

/-- Work that may fail is its own twin if each of its parts is. -/
theorem except_bind {ε : Type} {x y : ExceptT ε (Program S) α} {f g : α → ExceptT ε (Program S) β}
    (first : Twin v Eq x.run y.run) (rest : ∀ a, Twin v Eq (f a).run (g a).run)
    : Twin v Eq (x >>= f).run (y >>= g).run := by
  rw [ExceptT.run_bind, ExceptT.run_bind]
  refine first.bind fun answer answer' same => ?_
  subst same
  cases answer with
  | ok a => exact rest a
  | error e => exact .done rfl

/-- Twins are twins in other surroundings in which requests that look the same are met by twins. By
induction over how they are twins.
-/
theorem realize {u : Veil T} {meet meet' : (r : S.Request) → Program T (S.Answer r)}
    (twin : Twin v R p q)
    (meets : ∀ r r', v.Likens r r' → Twin u (v.Matches r r') (meet r) (meet' r'))
    : Twin u R (p.realize meet) (q.realize meet') := by
  induction twin with
  | done related => exact .done related
  | ask likens _ ih => exact (meets _ _ likens).bind fun a a' same => ih a a' same

/-- A veil conceals which of two twins runs. By induction over how the programs are twins: the first
requests look the same, so their answers do, and the surroundings answer alike behind them.
-/
theorem agree (twin : Twin v R p q) : v.Conceals R p q := by
  intro events events' a b ran ran' alike
  induction twin generalizing events events' with
  | done related =>
    obtain ⟨rfl, rfl⟩ := Runs.done_iff.1 ran
    obtain ⟨rfl, rfl⟩ := Runs.done_iff.1 ran'
    exact ⟨rfl, related⟩
  | ask likens _ ih =>
    obtain ⟨answer, rest, rfl, tail⟩ := Runs.ask_iff.1 ran
    obtain ⟨answer', rest', rfl, tail'⟩ := Runs.ask_iff.1 ran'
    rw [Veil.dealings_cons, Veil.dealings_cons] at alike ⊢
    have same := Veil.matches_of_alike likens alike
    rw [Veil.dealing_eq_of_matches same] at alike ⊢
    obtain ⟨equal, related⟩ := ih answer answer' same tail tail' (alike.behind [_])
    exact ⟨congrArg _ equal, related⟩

end Twin

end Caretaker
