import Caretaker.Program.Runs

/-!
Paths through a program that need not lead to its end: which requests it can come to, which it
never makes, and what becomes of its requests in other surroundings. Each notion splits at a
sequence of two programs, so the paths of a large program come from those of its parts.
-/

namespace Caretaker

variable {S T : Signature} {α β : Type}

-----------------------------------------------------------------------------
-- Requests that a program comes to

/-- `Asks p events r` says that after exactly these requests and answers `p` asks `r`. -/
inductive Asks : Program S α → List (Event S) → S.Request → Prop where
  | now (r : S.Request) (k : S.Answer r → Program S α) : Asks (.ask r k) [] r
  | later {r last : S.Request} {k : S.Answer r → Program S α} {events : List (Event S)}
      (answer : S.Answer r) (rest : Asks (k answer) events last)
      : Asks (.ask r k) (⟨r, answer⟩ :: events) last

namespace Asks

theorem not_done {a : α} {events : List (Event S)} {r : S.Request}
    : ¬ Asks (.done a : Program S α) events r := by
  intro h
  cases h

theorem ask_iff {r last : S.Request} {k : S.Answer r → Program S α} {events : List (Event S)}
    : Asks (.ask r k) events last
      ↔ events = [] ∧ last = r
        ∨ ∃ answer rest, events = ⟨r, answer⟩ :: rest ∧ Asks (k answer) rest last := by
  constructor
  · intro h
    cases h with
    | now => exact .inl ⟨rfl, rfl⟩
    | later answer rest => exact .inr ⟨answer, _, rfl, rest⟩
  · intro h
    rcases h with ⟨rfl, rfl⟩ | ⟨answer, rest, rfl, h⟩
    · exact .now _ _
    · exact .later answer h

/-- Two programs in a row come to a request in the first of them, or in the second behind a run
of the first. By induction over the first program.
-/
theorem bind_iff {p : Program S α} {f : α → Program S β} {events : List (Event S)}
    {r : S.Request}
    : Asks (p >>= f) events r
      ↔ Asks p events r
        ∨ ∃ first second a, events = first ++ second ∧ Runs p first a ∧ Asks (f a) second r := by
  induction p generalizing events with
  | done a =>
    constructor
    · intro h
      exact .inr ⟨[], events, a, rfl, .done a, h⟩
    · intro h
      rcases h with h | ⟨first, second, a', rfl, ran, h⟩
      · exact absurd h not_done
      · obtain ⟨rfl, rfl⟩ := Runs.done_iff.1 ran
        exact h
  | ask r k ih =>
    rw [Program.ask_bind, ask_iff]
    constructor
    · intro h
      rcases h with ⟨rfl, rfl⟩ | ⟨answer, rest, rfl, h⟩
      · exact .inl (.now _ _)
      · rcases (ih answer).1 h with h | ⟨first, second, a, rfl, ran, h⟩
        · exact .inl (.later answer h)
        · exact .inr ⟨_, second, a, rfl, .ask answer ran, h⟩
    · intro h
      rcases h with h | ⟨first, second, a, rfl, ran, h⟩
      · rcases ask_iff.1 h with ⟨rfl, rfl⟩ | ⟨answer, rest, rfl, later⟩
        · exact .inl ⟨rfl, rfl⟩
        · exact .inr ⟨answer, rest, rfl, (ih answer).2 (.inl later)⟩
      · obtain ⟨answer, rest, rfl, tail⟩ := Runs.ask_iff.1 ran
        exact .inr ⟨answer, rest ++ second, rfl,
          (ih answer).2 (.inr ⟨rest, second, a, rfl, tail, h⟩)⟩

end Asks

/-- The run of a program that gets the same answer whenever it asks the same. -/
def Program.follow (answer : (r : S.Request) → S.Answer r) : Program S α → List (Event S) × α
  | .done a => ([], a)
  | .ask r k =>
    let (events, a) := (k (answer r)).follow answer
    (⟨r, answer r⟩ :: events, a)

/-- Every choice of answers gives a run, by induction over the program. -/
theorem Runs.follow (answer : (r : S.Request) → S.Answer r) (p : Program S α)
    : Runs p (p.follow answer).1 (p.follow answer).2 := by
  induction p with
  | done a => exact .done a
  | ask r k ih => exact .ask (answer r) (ih (answer r))

/-- All that is answered is answered in the same way, by induction over the program. -/
theorem Program.answer_of_mem_follow (answer : (r : S.Request) → S.Answer r) (p : Program S α)
    : ∀ e ∈ (p.follow answer).1, e.answer = answer e.request := by
  induction p with
  | done a => exact nofun
  | ask r k ih =>
    intro e member
    rcases List.mem_cons.1 member with rfl | member
    · rfl
    · exact ih (answer r) e member

theorem Runs.request_iff {r : S.Request} {answer : S.Answer r} {events : List (Event S)}
    : Runs (Program.request r) events answer ↔ events = [⟨r, answer⟩] := by
  constructor
  · intro h
    obtain ⟨answer', rest, rfl, tail⟩ := Runs.ask_iff.1 h
    obtain ⟨rfl, rfl⟩ := Runs.done_iff.1 tail
    rfl
  · intro same
    subst same
    exact .ask (k := .done) answer (.done answer)

/-- A run ends where its program does, whatever is asked behind it. By induction over the run. -/
theorem Runs.prefix_unique {p : Program S α} {first first' rest rest' : List (Event S)} {a a' : α}
    (one : Runs p first a) (other : Runs p first' a') (same : first ++ rest = first' ++ rest')
    : first = first' ∧ a = a' := by
  induction one generalizing first' with
  | done a =>
    obtain ⟨rfl, rfl⟩ := done_iff.1 other
    exact ⟨rfl, rfl⟩
  | ask answer _ ih =>
    obtain ⟨answer', behind, rfl, ran⟩ := ask_iff.1 other
    obtain ⟨equal, more⟩ := List.cons.inj same
    cases equal
    obtain ⟨rfl, rfl⟩ := ih ran more
    exact ⟨rfl, rfl⟩

/-- Behind a run of the first of two programs comes a run of the second. -/
theorem Runs.bind_iff_of {p : Program S α} {f : α → Program S β} {first rest : List (Event S)}
    {a : α} {b : β} (ran : Runs p first a)
    : Runs (p >>= f) (first ++ rest) b ↔ Runs (f a) rest b := by
  rw [Runs.bind_iff]
  constructor
  · rintro ⟨first', rest', a', same, ran', behind⟩
    obtain ⟨rfl, rfl⟩ := ran.prefix_unique ran' same
    obtain rfl := List.append_cancel_left same
    exact behind
  · intro behind
    exact ⟨first, rest, a, rfl, ran, behind⟩

/-- A program that has come to its end asks nothing more, by induction over the run. -/
theorem Runs.not_asks {p : Program S α} {first rest : List (Event S)} {a : α} {r : S.Request}
    (ran : Runs p first a)
    : ¬ Asks p (first ++ rest) r := by
  induction ran with
  | done a => exact Asks.not_done
  | ask answer _ ih =>
    intro asks
    rcases Asks.ask_iff.1 asks with ⟨none, -⟩ | ⟨answer', behind, same, later⟩
    · cases none
    · obtain ⟨equal, rfl⟩ := List.cons.inj same
      cases equal
      exact ih later

/-- Behind a run of the first of two programs the second one asks. -/
theorem Asks.bind_iff_of {p : Program S α} {f : α → Program S β} {first rest : List (Event S)}
    {a : α} {r : S.Request} (ran : Runs p first a)
    : Asks (p >>= f) (first ++ rest) r ↔ Asks (f a) rest r := by
  rw [Asks.bind_iff]
  constructor
  · intro h
    rcases h with asks | ⟨first', rest', a', same, ran', behind⟩
    · exact absurd asks ran.not_asks
    · obtain ⟨rfl, rfl⟩ := ran.prefix_unique ran' same
      obtain rfl := List.append_cancel_left same
      exact behind
  · intro behind
    exact .inr ⟨first, rest, a, rfl, ran, behind⟩

/-- No run of the program comes to an end. -/
def Program.Endless (p : Program S α) : Prop :=
  ∀ events a, ¬ Runs p events a

theorem Program.Endless.bind {p : Program S α} (endless : p.Endless) (f : α → Program S β)
    : (p >>= f).Endless := by
  intro events b ran
  obtain ⟨first, second, a, -, ended, -⟩ := Runs.bind_iff.1 ran
  exact endless first a ended

/-- Nothing is asked behind a program that does not end. -/
theorem Program.Endless.asks_bind_iff {p : Program S α} {f : α → Program S β}
    {events : List (Event S)} {r : S.Request} (endless : p.Endless)
    : Asks (p >>= f) events r ↔ Asks p events r := by
  rw [Asks.bind_iff]
  refine or_iff_left ?_
  intro h
  obtain ⟨first, second, a, -, ended, -⟩ := h
  exact endless first a ended

/-- A program, and a value made from its own. -/
theorem Runs.bind_done_iff {p : Program S α} {f : α → β} {b : β} {events : List (Event S)}
    : Runs (p >>= fun a => .done (f a)) events b ↔ ∃ a, Runs p events a ∧ b = f a := by
  rw [Runs.bind_iff]
  constructor
  · intro h
    obtain ⟨first, second, a, rfl, ran, rest⟩ := h
    obtain ⟨rfl, rfl⟩ := Runs.done_iff.1 rest
    rw [List.append_nil]
    exact ⟨a, ran, rfl⟩
  · intro h
    obtain ⟨a, ran, rfl⟩ := h
    exact ⟨events, [], a, (List.append_nil _).symm, ran, .done _⟩

/-- A program, and a value behind it. -/
theorem Runs.then_done_iff {p : Program S Unit} {a b : α} {events : List (Event S)}
    : Runs (p >>= fun _ => .done a) events b ↔ Runs p events () ∧ b = a := by
  rw [Runs.bind_done_iff]
  constructor
  · intro h
    obtain ⟨⟨⟩, whole⟩ := h
    exact whole
  · intro whole
    exact ⟨(), whole⟩

/-- The path of a program whose requests are answered by what has been asked and answered before,
latest first. It leads to an end or to a request without an answer.
-/
def Program.pursue (answer : List (Event S) → (r : S.Request) → Option (S.Answer r))
    : List (Event S) → Program S α → List (Event S) × (α ⊕ S.Request)
  | _, .done a => ([], .inl a)
  | past, .ask r k =>
    match answer past r with
    | some given =>
      let (events, ending) := (k given).pursue answer (⟨r, given⟩ :: past)
      (⟨r, given⟩ :: events, ending)
    | none => ([], .inr r)

/-- A path that leads to an end is a run, by induction over the program. -/
theorem Runs.pursue {answer : List (Event S) → (r : S.Request) → Option (S.Answer r)}
    {past : List (Event S)} {p : Program S α} {a : α}
    (ended : (p.pursue answer past).2 = .inl a)
    : Runs p (p.pursue answer past).1 a := by
  induction p generalizing past with
  | done b =>
    cases ended
    exact .done a
  | ask r k ih =>
    rw [Program.pursue] at ended ⊢
    cases given : answer past r with
    | none =>
      rw [given] at ended
      cases ended
    | some reply =>
      rw [given] at ended
      exact .ask reply (ih reply ended)

/-- A path that does not lead to an end comes to the request without an answer, by induction over
the program.
-/
theorem Asks.pursue {answer : List (Event S) → (r : S.Request) → Option (S.Answer r)}
    {past : List (Event S)} {p : Program S α} {r : S.Request}
    (stuck : (p.pursue answer past).2 = .inr r)
    : Asks p (p.pursue answer past).1 r := by
  induction p generalizing past with
  | done a => cases stuck
  | ask r' k ih =>
    rw [Program.pursue] at stuck ⊢
    cases given : answer past r' with
    | none =>
      rw [given] at stuck
      cases stuck
      exact .now _ k
    | some reply =>
      rw [given] at stuck
      exact .later reply (ih reply stuck)

/-- A path that does not lead to an end stops for want of an answer, by induction over the
program.
-/
theorem Program.exists_unanswered {answer : List (Event S) → (r : S.Request) → Option (S.Answer r)}
    {past : List (Event S)} {p : Program S α} {r : S.Request}
    (stuck : (p.pursue answer past).2 = .inr r)
    : ∃ before, answer before r = none := by
  induction p generalizing past with
  | done a => cases stuck
  | ask r' k ih =>
    rw [Program.pursue] at stuck
    cases given : answer past r' with
    | none =>
      rw [given] at stuck
      cases stuck
      exact ⟨past, given⟩
    | some reply =>
      rw [given] at stuck
      exact ih reply stuck

/-- Where every request has an answer, a program that has come to one of its requests gets to an
end, whatever the answer to this request. By induction over the way to the request.
-/
theorem Asks.completes [answers : ∀ r, Nonempty (S.Answer r)] {p : Program S α}
    {events : List (Event S)} {r : S.Request} (h : Asks p events r) (answer : S.Answer r)
    : ∃ rest a, Runs p (events ++ ⟨r, answer⟩ :: rest) a := by
  induction h with
  | now r k =>
    exact ⟨_, _, .ask answer (.follow (fun r => Classical.choice (answers r)) (k answer))⟩
  | later first _ ih =>
    obtain ⟨rest, a, ran⟩ := ih answer
    exact ⟨rest, a, .ask first ran⟩

-----------------------------------------------------------------------------
-- Requests that a program never makes

/-- Whatever it is answered, the program asks only what is allowed. -/
def Program.Only (allowed : S.Request → Prop) : Program S α → Prop
  | .done _ => True
  | .ask r k => allowed r ∧ ∀ answer, (k answer).Only allowed

namespace Program.Only

variable {allowed : S.Request → Prop}

@[simp]
theorem done (a : α) : (Program.done a : Program S α).Only allowed := trivial

@[simp]
theorem ask_iff {r : S.Request} {k : S.Answer r → Program S α}
    : (Program.ask r k).Only allowed ↔ allowed r ∧ ∀ answer, (k answer).Only allowed := .rfl

@[simp]
theorem request_iff {r : S.Request} : (Program.request r).Only allowed ↔ allowed r :=
  and_iff_left fun _ => trivial

/-- Two programs in a row ask only what is allowed if each of them does, by induction over the
first one.
-/
theorem bind {p : Program S α} {f : α → Program S β} (first : p.Only allowed)
    (second : ∀ a, (f a).Only allowed)
    : (p >>= f).Only allowed := by
  induction p with
  | done a => exact second a
  | ask r k ih => exact ⟨first.1, fun answer => ih answer (first.2 answer)⟩

/-- What asks only what is allowed asks only what is allowed more generously, by induction over the
program.
-/
theorem mono {more : S.Request → Prop} {p : Program S α} (weaker : ∀ r, allowed r → more r)
    (h : p.Only allowed)
    : p.Only more := by
  induction p with
  | done a => trivial
  | ask r k ih => exact ⟨weaker r h.1, fun answer => ih answer (h.2 answer)⟩

/-- Work that may fail asks only what is allowed if each of its parts does. -/
theorem except_bind {ε : Type} {x : ExceptT ε (Program S) α} {f : α → ExceptT ε (Program S) β}
    (first : x.run.Only allowed) (second : ∀ a, (f a).run.Only allowed)
    : (x >>= f).run.Only allowed := by
  rw [ExceptT.run_bind]
  refine .bind first fun answer => ?_
  cases answer with
  | ok a => exact second a
  | error e => trivial

/-- Something is done to each of some items and asks only what is allowed each time, by induction
over the items.
-/
theorem forM {handle : α → Program S Unit} (each : ∀ a, (handle a).Only allowed) (items : List α)
    : (items.forM handle).Only allowed := by
  induction items with
  | nil => trivial
  | cons item rest ih => exact .bind (each item) fun _ => ih

/-- A program asks only what is allowed in other surroundings if each of its requests does there, by
induction over the program.
-/
theorem realize {T : Signature} {meet : (r : S.Request) → Program T (S.Answer r)}
    {more : T.Request → Prop} {p : Program S α} (h : p.Only allowed)
    (meets : ∀ r, allowed r → (meet r).Only more)
    : (p.realize meet).Only more := by
  induction p with
  | done a => trivial
  | ask r k ih => exact .bind (meets r h.1) fun answer => ih answer (h.2 answer)

/-- All that is asked in a run is allowed, by induction over the run. -/
theorem of_runs {p : Program S α} {events : List (Event S)} {a : α} (ran : Runs p events a)
    (h : p.Only allowed)
    : ∀ e ∈ events, allowed e.request := by
  induction ran with
  | done a => simp
  | ask answer _ ih =>
    intro e member
    rcases List.mem_cons.1 member with rfl | member
    · exact h.1
    · exact ih (h.2 answer) e member

/-- Every request that is come to is allowed, by induction over the way to it. -/
theorem of_asks {p : Program S α} {events : List (Event S)} {r : S.Request}
    (asks : Asks p events r) (h : p.Only allowed)
    : allowed r := by
  induction asks with
  | now r k => exact h.1
  | later answer _ ih => exact ih (h.2 answer)

end Program.Only

-----------------------------------------------------------------------------
-- Other surroundings

/-- `Met meet asked events` says that the requests in `asked` were met one after the other, and
that `events` is what was asked in meeting them.
-/
inductive Met (meet : (r : S.Request) → Program T (S.Answer r))
    : List (Event S) → List (Event T) → Prop where
  | nil : Met meet [] []
  | cons {r : S.Request} {answer : S.Answer r} {asked : List (Event S)}
      {first rest : List (Event T)} (head : Runs (meet r) first answer) (tail : Met meet asked rest)
      : Met meet (⟨r, answer⟩ :: asked) (first ++ rest)

section

variable {meet : (r : S.Request) → Program T (S.Answer r)}

namespace Met

@[simp]
theorem nil_iff {events : List (Event T)} : Met meet [] events ↔ events = [] := by
  constructor
  · intro h
    cases h
    rfl
  · intro same
    subst same
    exact .nil

theorem cons_iff {e : Event S} {asked : List (Event S)} {events : List (Event T)}
    : Met meet (e :: asked) events
      ↔ ∃ first rest, events = first ++ rest ∧ Runs (meet e.request) first e.answer
        ∧ Met meet asked rest := by
  constructor
  · intro h
    cases h with
    | cons head tail => exact ⟨_, _, rfl, head, tail⟩
  · intro h
    obtain ⟨first, rest, rfl, head, tail⟩ := h
    exact .cons head tail

/-- Requests in a row are met in two parts, by induction over the first ones. -/
theorem append_iff {asked more : List (Event S)} {events : List (Event T)}
    : Met meet (asked ++ more) events
      ↔ ∃ first second, events = first ++ second ∧ Met meet asked first
        ∧ Met meet more second := by
  induction asked generalizing events with
  | nil =>
    constructor
    · intro h
      exact ⟨[], events, rfl, .nil, h⟩
    · intro h
      obtain ⟨first, second, rfl, h, rest⟩ := h
      obtain rfl := nil_iff.1 h
      exact rest
  | cons e asked ih =>
    rw [List.cons_append, cons_iff]
    constructor
    · intro h
      obtain ⟨first, rest, rfl, head, tail⟩ := h
      obtain ⟨middle, second, rfl, left, right⟩ := ih.1 tail
      exact ⟨first ++ middle, second, by rw [List.append_assoc], .cons head left, right⟩
    · intro h
      obtain ⟨first, second, rfl, left, right⟩ := h
      obtain ⟨head, middle, rfl, met, left⟩ := cons_iff.1 left
      exact ⟨head, middle ++ second, by rw [List.append_assoc], met,
        ih.2 ⟨middle, second, rfl, left, right⟩⟩

/-- What holds of every event in meeting a request holds of all events in meeting several, by
induction over the requests.
-/
theorem forall_event {asked : List (Event S)} {events : List (Event T)}
    {good : Event T → Prop} (h : Met meet asked events)
    (each : ∀ e ∈ asked, ∀ met, Runs (meet e.request) met e.answer → ∀ d ∈ met, good d)
    : ∀ d ∈ events, good d := by
  induction h with
  | nil => simp
  | cons head _ ih =>
    intro d member
    rcases List.mem_append.1 member with member | member
    · exact each _ (List.mem_cons_self ..) _ head d member
    · exact ih (fun e he => each e (List.mem_cons_of_mem _ he)) d member

/-- Every request was met by a run of the program for it, by induction over the requests. -/
theorem exists_of_mem {asked : List (Event S)} {events : List (Event T)} (h : Met meet asked events)
    : ∀ e ∈ asked, ∃ met, Runs (meet e.request) met e.answer ∧ met ⊆ events := by
  induction h with
  | nil => simp
  | cons head _ ih =>
    intro e member
    rcases List.mem_cons.1 member with rfl | member
    · exact ⟨_, head, List.subset_append_left ..⟩
    · obtain ⟨met, ran, within⟩ := ih e member
      exact ⟨met, ran, List.subset_append_of_subset_right _ within⟩

end Met

/-- A program runs in other surroundings as it runs in its own, with each request met by a run of
the program for it. By induction over the program.
-/
theorem Runs.realize_iff {p : Program S α} {events : List (Event T)} {a : α}
    : Runs (p.realize meet) events a ↔ ∃ asked, Runs p asked a ∧ Met meet asked events := by
  induction p generalizing events with
  | done b =>
    constructor
    · intro h
      obtain ⟨rfl, rfl⟩ := Runs.done_iff.1 h
      exact ⟨[], .done _, .nil⟩
    · intro h
      obtain ⟨asked, ran, met⟩ := h
      obtain ⟨rfl, rfl⟩ := Runs.done_iff.1 ran
      obtain rfl := Met.nil_iff.1 met
      exact .done _
  | ask r k ih =>
    rw [Program.realize, Program.interpret_ask, Runs.bind_iff]
    constructor
    · intro h
      obtain ⟨first, second, answer, rfl, head, rest⟩ := h
      obtain ⟨asked, ran, met⟩ := (ih answer).1 rest
      exact ⟨_, .ask answer ran, .cons head met⟩
    · intro h
      obtain ⟨asked, ran, met⟩ := h
      obtain ⟨answer, rest, rfl, left⟩ := Runs.ask_iff.1 ran
      obtain ⟨first, second, rfl, head, tail⟩ := Met.cons_iff.1 met
      exact ⟨first, second, answer, rfl, head, (ih answer).2 ⟨rest, left, tail⟩⟩

/-- A program comes to a request of other surroundings in meeting a request of its own that it
has come to. By induction over the program.
-/
theorem Asks.realize_iff {p : Program S α} {events : List (Event T)} {t : T.Request}
    : Asks (p.realize meet) events t
      ↔ ∃ asked r first second, events = first ++ second ∧ Asks p asked r
        ∧ Met meet asked first ∧ Asks (meet r) second t := by
  induction p generalizing events with
  | done b =>
    constructor
    · intro h
      exact absurd h Asks.not_done
    · intro h
      obtain ⟨asked, r, first, second, rfl, h, -, -⟩ := h
      exact absurd h Asks.not_done
  | ask r k ih =>
    rw [Program.realize, Program.interpret_ask, Asks.bind_iff]
    constructor
    · intro h
      rcases h with h | ⟨first, second, answer, rfl, head, h⟩
      · exact ⟨[], r, [], events, rfl, .now r k, .nil, h⟩
      · obtain ⟨asked, r', middle, last, rfl, asks, met, h⟩ := (ih answer).1 h
        exact ⟨_, r', first ++ middle, last, by rw [List.append_assoc], .later answer asks,
          .cons head met, h⟩
    · intro h
      obtain ⟨asked, r', first, second, rfl, asks, met, h⟩ := h
      rcases Asks.ask_iff.1 asks with ⟨rfl, rfl⟩ | ⟨answer, rest, rfl, later⟩
      · obtain rfl := Met.nil_iff.1 met
        exact .inl h
      · obtain ⟨head, middle, rfl, ran, tail⟩ := Met.cons_iff.1 met
        exact .inr ⟨head, middle ++ second, answer, by rw [List.append_assoc], ran,
          (ih answer).2 ⟨rest, r', middle, second, rfl, later, tail, h⟩⟩

end

-----------------------------------------------------------------------------
-- Programs with a state, programs that may fail

theorem Runs.state_bind_iff {σ : Type} {x : StateT σ (Program S) α}
    {f : α → StateT σ (Program S) β} {s : σ} {events : List (Event S)} {result : β × σ}
    : Runs ((x >>= f).run s) events result
      ↔ ∃ first second a middle, events = first ++ second ∧ Runs (x.run s) first (a, middle)
        ∧ Runs ((f a).run middle) second result := by
  rw [StateT.run_bind, Runs.bind_iff]
  constructor
  · intro h
    obtain ⟨first, second, ⟨a, middle⟩, rfl, head, rest⟩ := h
    exact ⟨first, second, a, middle, rfl, head, rest⟩
  · intro h
    obtain ⟨first, second, a, middle, rfl, head, rest⟩ := h
    exact ⟨first, second, (a, middle), rfl, head, rest⟩

/-- Behind a run of the first of two steps comes a run of the second, from the state between. -/
theorem Runs.state_bind_iff_of {σ : Type} {x : StateT σ (Program S) α}
    {f : α → StateT σ (Program S) β} {s middle : σ} {first rest : List (Event S)} {a : α}
    {result : β × σ} (ran : Runs (x.run s) first (a, middle))
    : Runs ((x >>= f).run s) (first ++ rest) result ↔ Runs ((f a).run middle) rest result := by
  rw [StateT.run_bind, Runs.bind_iff_of ran]

/-- Work that may fail runs to its first failure, or through both of its parts. -/
theorem Runs.except_bind_iff {ε : Type} {x : ExceptT ε (Program S) α}
    {f : α → ExceptT ε (Program S) β} {events : List (Event S)} {result : Except ε β}
    : Runs ((x >>= f).run) events result
      ↔ (∃ e, result = .error e ∧ Runs x.run events (.error e))
        ∨ ∃ first second a, events = first ++ second ∧ Runs x.run first (.ok a)
          ∧ Runs (f a).run second result := by
  rw [ExceptT.run_bind, Runs.bind_iff]
  constructor
  · intro h
    obtain ⟨first, second, answer, rfl, head, rest⟩ := h
    cases answer with
    | ok a => exact .inr ⟨first, second, a, rfl, head, rest⟩
    | error e =>
      obtain ⟨rfl, rfl⟩ := Runs.done_iff.1 rest
      exact .inl ⟨e, rfl, by rwa [List.append_nil]⟩
  · intro h
    rcases h with ⟨e, rfl, head⟩ | ⟨first, second, a, rfl, head, rest⟩
    · exact ⟨events, [], .error e, (List.append_nil _).symm, head, .done _⟩
    · exact ⟨first, second, .ok a, rfl, head, rest⟩

end Caretaker
