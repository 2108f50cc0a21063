import Caretaker.Proofs.Evidence.Acts
import Caretaker.Proofs.Cycle.Steps

/-!
A site whose reports go into evidence. The answers of the site to reports are those of the store,
except where a report fails on its way there, and each report that arrives is one thing that is done
to the evidence.
-/

namespace Caretaker

/-- The report that goes to the store. -/
def Event.deposit? (e : Event Site) : Option Report :=
  match e.request with
  | .report r => r.deposit?
  | _ => none

/-- The reports that go to the store in a run. -/
def Event.deposits (events : List (Event Site)) : List Report :=
  events.filterMap Event.deposit?

@[simp]
theorem Event.deposits_nil : deposits [] = [] := rfl

@[simp]
theorem Event.deposits_cons (event : Event Site) (events : List (Event Site))
    : deposits (event :: events) = event.deposit?.toList ++ deposits events := by
  rw [deposits, List.filterMap_cons]
  cases event.deposit? <;> rfl

@[simp]
theorem Event.deposits_append (first second : List (Event Site))
    : deposits (first ++ second) = deposits first ++ deposits second :=
  List.filterMap_append

namespace Evidence

/-- What becomes of one request in the evidence. Some reports may fail, but what is said always
arrives, and what is no report does not matter.
-/
inductive Files (mayFail : Report → Prop) (e : Evidence) : Event Site → List Act → Prop where
  | arrived {r : Report} {answer : r.Answer} (uptime : Nat)
      (answered : answer = (e.file uptime r).answer)
      : Files mayFail e ⟨.report r, answer⟩ [.file uptime r]
  | failed {r : Report} {answer : r.Answer} (fault : Fault) (may : mayFail r)
      (failure : r.failure? fault = some answer)
      : Files mayFail e ⟨.report r, answer⟩ []
  | aside {event : Event Site} (isOther : ∀ r, event.request ≠ .report r)
      : Files mayFail e event []

/-- What becomes of the requests of a run, one after the other. -/
inductive Filing (mayFail : Report → Prop) : Evidence → List (Event Site) → List Act → Prop where
  | none (e : Evidence) : Filing mayFail e [] []
  | next {e : Evidence} {event : Event Site} {events : List (Event Site)} {acts more : List Act}
      (head : Files mayFail e event acts) (tail : Filing mayFail (e.performAll acts) events more)
      : Filing mayFail e (event :: events) (acts ++ more)

variable {mayFail : Report → Prop} {e : Evidence} {event : Event Site}
  {events first second : List (Event Site)} {acts : List Act}

-----------------------------------------------------------------------------
-- One request

namespace Files

theorem length_le (files : Files mayFail e event acts) : acts.length ≤ 1 := by
  cases files with
  | arrived => exact Nat.le_refl 1
  | failed | aside => exact Nat.zero_le 1

theorem takeBatches_not_mem (files : Files mayFail e event acts) : Act.takeBatches ∉ acts := by
  cases files with
  | arrived => exact fun member => nomatch List.mem_singleton.1 member
  | failed | aside => exact nofun

theorem deposits_subset (files : Files mayFail e event acts)
    : deposits acts ⊆ event.deposit?.toList := by
  cases files with
  | arrived => exact List.Subset.refl _
  | failed | aside => exact List.nil_subset _

/-- If nothing may fail, it brings its report to the store. -/
theorem deposits_eq (files : Files (fun _ => False) e event acts)
    : deposits acts = event.deposit?.toList := by
  cases files with
  | arrived => rfl
  | failed _ may => exact may.elim
  | aside isOther =>
    obtain ⟨r, answer⟩ := event
    cases r with
    | report r => exact absurd rfl (isOther r)
    | _ => rfl

theorem of_report {r : Report} {answer : r.Answer}
    (files : Files mayFail e ⟨.report r, answer⟩ acts)
    (sure : mayFail r → ∀ fault, r.failure? fault = Option.none)
    : ∃ uptime, acts = [.file uptime r] := by
  cases files with
  | arrived uptime => exact ⟨uptime, rfl⟩
  | failed fault may failure =>
    rw [sure may fault] at failure
    cases failure
  | aside isOther => exact absurd rfl (isOther r)

end Files

-----------------------------------------------------------------------------
-- All requests of a run

namespace Filing

/-- What becomes of two runs in a row becomes of each of them, by induction over the first one. -/
theorem split (filing : Filing mayFail e (first ++ second) acts)
    : ∃ one other, acts = one ++ other ∧ Filing mayFail e first one
      ∧ Filing mayFail (e.performAll one) second other := by
  induction first generalizing e acts with
  | nil => exact ⟨[], acts, rfl, .none e, filing⟩
  | cons event rest ih =>
    cases filing with
    | @next _ _ _ mine _ head tail =>
      obtain ⟨one, other, rfl, left, right⟩ := ih tail
      rw [← performAll_append] at right
      exact ⟨mine ++ one, other, (List.append_assoc ..).symm, .next head left, right⟩

theorem uncons (filing : Filing mayFail e (event :: events) acts)
    : ∃ mine more, acts = mine ++ more ∧ Files mayFail e event mine
      ∧ Filing mayFail (e.performAll mine) events more := by
  cases filing with
  | next head tail => exact ⟨_, _, rfl, head, tail⟩

theorem length_le (filing : Filing mayFail e events acts) : acts.length ≤ events.length := by
  induction filing with
  | none => exact Nat.le_refl 0
  | next head _ ih =>
    have one := head.length_le
    rw [List.length_append, List.length_cons]
    omega

theorem takeBatches_not_mem (filing : Filing mayFail e events acts) : Act.takeBatches ∉ acts := by
  induction filing with
  | none => exact nofun
  | next head _ ih =>
    rw [List.mem_append, not_or]
    exact ⟨head.takeBatches_not_mem, ih⟩

/-- Nothing goes to the store but what is reported, by induction over the run. -/
theorem deposits_subset (filing : Filing mayFail e events acts)
    : deposits acts ⊆ Event.deposits events := by
  induction filing with
  | none => exact List.nil_subset _
  | next head _ ih =>
    rw [deposits_append, Event.deposits_cons]
    exact List.append_subset.2 ⟨List.subset_append_of_subset_left _ head.deposits_subset,
      List.subset_append_of_subset_right _ ih⟩

/-- If nothing may fail, all that is reported goes to the store, by induction over the run. -/
theorem deposits_eq (filing : Filing (fun _ => False) e events acts)
    : deposits acts = Event.deposits events := by
  induction filing with
  | none => rfl
  | next head _ ih => rw [deposits_append, head.deposits_eq, ih, Event.deposits_cons]

/-- An open store takes the reports of any run in which they are taken, by induction over the run.
-/
theorem of_taken (isOpen : e.IsOpen)
    (taken : ∀ event ∈ events, ∀ r answer, event = ⟨.report r, answer⟩ → answer = r.taken)
    : ∃ acts, Filing mayFail e events acts := by
  induction events generalizing e with
  | nil => exact ⟨[], .none e⟩
  | cons event rest ih =>
    have others (e : Evidence) (isOpen : e.IsOpen) := ih isOpen fun event member =>
      taken event (List.mem_cons_of_mem _ member)
    by_cases isReport : ∃ r, event.request = .report r
    · obtain ⟨r, asked⟩ := isReport
      obtain ⟨request, answer⟩ := event
      cases asked
      -- Any uptime will do: no answer depends on it.
      have answered : answer = (e.file 0 r).answer := by
        rw [isOpen.answer_file]
        exact taken _ (List.mem_cons_self ..) r answer rfl
      obtain ⟨acts, filing⟩ := others _ (isOpen.perform (.file 0 r))
      exact ⟨_, .next (.arrived 0 answered) filing⟩
    · obtain ⟨acts, filing⟩ := others e isOpen
      exact ⟨_, .next (.aside (not_exists.1 isReport)) filing⟩

end Filing

end Evidence

end Caretaker
