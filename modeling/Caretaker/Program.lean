/-!
A program is a decision tree over the answers of its surroundings. Nothing in it says how a
request is met, so one program serves a test bench, a rehearsal and the device, and a statement
about all its runs is a statement about every behaviour of whatever it is connected to.
-/

namespace Caretaker

/-- The requests a program may make, each with the type of its answers. -/
structure Signature where
  Request : Type
  Answer : Request → Type

/-- A computation that ends with a value or makes a request and goes on with the answer. -/
inductive Program (S : Signature) (α : Type) : Type where
  | done (value : α)
  | ask (request : S.Request) (next : S.Answer request → Program S α)

namespace Program

variable {S T : Signature} {α β γ : Type}

/-- First one program, then another one chosen by its value. -/
protected def bind : Program S α → (α → Program S β) → Program S β
  | .done a, f => f a
  | .ask r k, f => .ask r fun answer => (k answer).bind f

instance : Monad (Program S) where
  pure := .done
  bind := .bind

/-- The program that makes one request and hands its answer back. -/
def request (r : S.Request) : Program S (S.Answer r) :=
  .ask r .done

@[simp]
theorem bind_done (p : Program S α) : p.bind .done = p := by
  induction p with
  | done a => rfl
  | ask r k ih => exact congrArg (Program.ask r) (funext ih)

protected theorem bind_assoc (p : Program S α) (f : α → Program S β) (g : β → Program S γ)
    : (p.bind f).bind g = p.bind fun a => (f a).bind g := by
  induction p with
  | done a => rfl
  | ask r k ih => exact congrArg (Program.ask r) (funext ih)

@[simp]
theorem pure_eq_done (a : α) : (pure a : Program S α) = .done a := rfl

@[simp]
theorem done_bind (a : α) (f : α → Program S β) : (Program.done a >>= f) = f a := rfl

@[simp]
theorem ask_bind (r : S.Request) (k : S.Answer r → Program S α) (f : α → Program S β)
    : (Program.ask r k >>= f) = .ask r fun answer => k answer >>= f := rfl

@[simp]
theorem request_bind (r : S.Request) (f : S.Answer r → Program S β)
    : (request r >>= f) = .ask r f := rfl

/-- Programs obey the monad laws, by induction over the tree of the first one. -/
instance : LawfulMonad (Program S) :=
  LawfulMonad.mk' (Program S)
    (fun p => bind_done p)
    (fun _ _ => rfl)
    (fun p f g => Program.bind_assoc p f g)

/-- The meaning of a program in a monad that can meet each of its requests. -/
def interpret {m : Type → Type} [Monad m] (answer : (r : S.Request) → m (S.Answer r))
    : Program S α → m α
  | .done a => pure a
  | .ask r k => answer r >>= fun a => (k a).interpret answer

@[simp]
theorem interpret_done {m : Type → Type} [Monad m] (answer : (r : S.Request) → m (S.Answer r))
    (a : α)
    : (Program.done a).interpret answer = pure a := rfl

@[simp]
theorem interpret_ask {m : Type → Type} [Monad m] (answer : (r : S.Request) → m (S.Answer r))
    (r : S.Request) (k : S.Answer r → Program S α)
    : (Program.ask r k).interpret answer = answer r >>= fun a => (k a).interpret answer := rfl

/-- Interpretation respects sequencing, by induction over the first program. -/
theorem interpret_bind {m : Type → Type} [Monad m] [LawfulMonad m]
    (answer : (r : S.Request) → m (S.Answer r)) (p : Program S α) (f : α → Program S β)
    : (p >>= f).interpret answer = p.interpret answer >>= fun a => (f a).interpret answer := by
  induction p with
  | done a => simp
  | ask r k ih => simp [ih]

/-- The same program in other surroundings, where each request is met by a program. -/
def realize (meet : (r : S.Request) → Program T (S.Answer r)) (p : Program S α) : Program T α :=
  p.interpret meet

end Program

end Caretaker
