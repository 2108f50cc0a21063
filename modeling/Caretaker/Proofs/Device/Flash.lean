import Caretaker.Device.Store
import Caretaker.Device.Trial
import Caretaker.Proofs.Program.Paths

/-!
What the store documents. Writing replaces and erasing deletes what is under one key, a read tells
what is there if there is room for it, and a call that fails changes nothing.
-/

namespace Caretaker.Device.Store

open Text

/-- What is stored under each key of each space. -/
abbrev Flash := String → String → Option (List UInt8)

namespace Flash

/-- The flash with something else under a key. -/
def set (flash : Flash) (space key : String) (content : Option (List UInt8)) : Flash :=
  fun space' key' => if space' = space ∧ key' = key then content else flash space' key'

theorem set_self {flash : Flash} {space key : String} {content : Option (List UInt8)}
    : flash.set space key content space key = content :=
  if_pos ⟨rfl, rfl⟩

/-- What is stored once a request has been answered. -/
def after (flash : Flash) : Event Platform → Flash
  | ⟨.call (.write space key text), .ok _⟩ => flash.set space key (some (toBytes text))
  | ⟨.call (.erase space key), .ok _⟩ => flash.set space key none
  | _ => flash

/-- What is read is what is stored, and there is room for it. -/
def Tells (flash : Flash) : Event Platform → Prop
  | ⟨.call (.readBytes space key room), .ok content⟩ =>
    content = flash space key ∧ ∀ bytes ∈ content, bytes.length ≤ room
  | _ => True

/-- What is stored once all requests have been answered. -/
def afterAll (flash : Flash) (events : List (Event Platform)) : Flash :=
  events.foldl after flash

/-- Whatever is read is what is stored by then. -/
def TellsAll (flash : Flash) : List (Event Platform) → Prop
  | [] => True
  | e :: events => flash.Tells e ∧ (flash.after e).TellsAll events

end Flash

/-- A request to change what is under a key. -/
def Alters (space key : String) : Request → Prop
  | .call (.write space' key' _) | .call (.erase space' key') => space = space' ∧ key = key'
  | _ => False

/-- What is under a key changes only if that is asked for. -/
theorem Flash.after_apply {flash : Flash} {e : Event Platform} {space key : String}
    (unaltered : ¬ Alters space key e.request)
    : flash.after e space key = flash space key := by
  obtain ⟨request, answer⟩ := e
  cases request with
  | call c =>
    cases c with
    | write | erase =>
      cases answer with
      | ok => exact if_neg unaltered
      | error => rfl
    | _ => rfl
  | _ => rfl

/-- A call to the store that failed. -/
def Fails : Event Platform → Prop
  | ⟨.call (.openStore _), .error _⟩ | ⟨.call (.readBytes ..), .error _⟩
  | ⟨.call (.write ..), .error _⟩ | ⟨.call (.erase ..), .error _⟩ => True
  | _ => False

/-- A call that is meant to change what is stored. -/
def isChange : Event Platform → Bool
  | ⟨.call (.write ..), _⟩ | ⟨.call (.erase ..), _⟩ => true
  | _ => false

-----------------------------------------------------------------------------
-- The scripted platform

/-- What a task is answered, at once or later. -/
def answer? {A : Type} : Reaction A Job → Option A
  | .answer a | .later _ a => some a
  | _ => none

/-- What is stored on a platform. -/
def flashOf (w : World) : Flash :=
  w.contents.find?

section

variable {w : World} {c : Call} {a : c.Answer}

/-- A call that fails changes nothing. -/
theorem flashOf_refuse {code : Code} (answered : answer? (w.refuse code c).1 = some a)
    : (flashOf w).Tells ⟨.call c, a⟩
      ∧ flashOf (w.refuse code c).2 = (flashOf w).after ⟨.call c, a⟩ := by
  cases c <;> cases answered <;> exact ⟨trivial, rfl⟩

theorem flashOf_accept (answered : answer? (w.accept c).1 = some a)
    : (flashOf w).Tells ⟨.call c, a⟩
      ∧ flashOf (w.accept c).2 = (flashOf w).after ⟨.call c, a⟩ := by
  cases c with
  | write space key text =>
    cases answered
    exact ⟨trivial, funext fun _ => funext fun _ => Contents.find?_insert ..⟩
  | erase space key =>
    cases answered
    exact ⟨trivial, funext fun _ => funext fun _ => Contents.find?_erase ..⟩
  | readBytes space key room =>
    unfold World.accept at answered ⊢
    cases there : w.contents.find? space key with
    | none =>
      simp only [there] at answered ⊢
      obtain rfl := Option.some.inj answered
      exact ⟨⟨there.symm, nofun⟩, rfl⟩
    | some bytes =>
      simp only [there] at answered ⊢
      obtain rfl := Option.some.inj answered
      split
      case isTrue => exact ⟨trivial, rfl⟩
      case isFalse fits =>
        refine ⟨⟨there.symm, ?_⟩, rfl⟩
        rintro _ ⟨⟩
        exact Nat.le_of_not_lt fits
  | readText | submit =>
    unfold World.accept
    dsimp only
    repeat' split
    all_goals exact ⟨trivial, rfl⟩
  | _ => cases answered <;> exact ⟨trivial, rfl⟩

/-- The scripted platform stores what it is documented to store, and tells it. -/
theorem flashOf_meet (answered : answer? (w.meet c).1 = some a)
    : (flashOf w).Tells ⟨.call c, a⟩
      ∧ flashOf (w.meet c).2 = (flashOf w).after ⟨.call c, a⟩ := by
  unfold World.meet at answered ⊢
  cases failed : w.failure? c.name with
  | none =>
    simp only [failed] at answered ⊢
    exact flashOf_accept answered
  | some code =>
    simp only [failed] at answered ⊢
    exact flashOf_refuse answered

end

/-- Only calls have to do with what is stored. -/
theorem flashOf_react {time : Nat} {r : Request} {w : World} {a : Answer r}
    (answered : answer? (Trial.react time r w).1 = some a)
    : (flashOf w).Tells ⟨r, a⟩
      ∧ flashOf (Trial.react time r w).2 = (flashOf w).after ⟨r, a⟩ := by
  cases r with
  | call c => exact flashOf_meet answered
  | _ => exact ⟨trivial, rfl⟩

/-- What is asked of the scripted platform from one state to another, at whatever times. -/
inductive Scripted : World → List (Event Platform) → World → Prop where
  | nil (w : World) : Scripted w [] w
  | next {w last : World} {e : Event Platform} {events : List (Event Platform)} (time : Nat)
      (answered : answer? (Trial.react time e.request w).1 = some e.answer)
      (rest : Scripted (Trial.react time e.request w).2 events last)
      : Scripted w (e :: events) last

end Caretaker.Device.Store
