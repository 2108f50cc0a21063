import Caretaker.Device
import Caretaker.Proofs.Program.Paths

/-!
What the device asks of its platform in meeting the requests of its site. Only an installation
touches the free slot, and only a restart asks for something that nothing follows.
-/

namespace Caretaker.Device

open Attempted

-----------------------------------------------------------------------------
-- Kinds of requests

/-- What a request is about. -/
inductive Kind where
  | plain
  /-- The free slot for firmware. -/
  | slot
  /-- The end of everything. -/
  | final
deriving DecidableEq

/-- The kind of a request to the platform. -/
def Request.kind : Request → Kind
  | .call .openSlot | .call .beginUpdate | .call (.writeUpdate _) | .call .completeUpdate
  | .call .abortUpdate => .slot
  | .call .reboot | .abandon _ => .final
  | _ => .plain

/-- Just the requests that end everything have no answer, by cases over the request. -/
theorem Request.kind_eq_final_iff {r : Request} : r.kind = .final ↔ ¬ Nonempty (Answer r) := by
  have answered {answer : Type} (a : answer) (h : r.kind ≠ .final)
      : r.kind = .final ↔ ¬ Nonempty answer :=
    iff_of_false h (not_not_intro ⟨a⟩)
  cases r with
  | now => exact answered (0 : Stamp) nofun
  | report report =>
    cases report with
    | say => exact answered () nofun
    | count | attempt | notice | keepLog => exact answered (.ok () : Except Fault Unit) nofun
  | registry => exact answered (⟨0, 0, []⟩ : Liveness.Registry) nofun
  | fork => exact answered 0 nofun
  | takeBatches => exact answered [] nofun
  | exported => exact answered "" nofun
  | abandon => exact iff_of_true rfl fun ⟨nothing⟩ => nothing.elim
  | pause | replace | acquire | release => exact answered () nofun
  | call c =>
    cases c with
    | drain => exact answered () nofun
    | reboot => exact iff_of_true rfl fun ⟨nothing⟩ => nothing.elim
    | _ => exact answered (.error ⟨0⟩ : Except Code _) nofun

/-- Work that asks for nothing but plain things. -/
def Plain {α : Type} (p : Program Platform α) : Prop :=
  p.Only (Request.kind · = .plain)

variable {α : Type} {allowed : Request → Prop}

theorem only_trying {p : Program Platform (Except Code α)} (h : p.Only allowed)
    : (trying p).run.Only allowed :=
  .bind h fun _ => trivial

theorem only_sure {p : Program Platform α} (h : p.Only allowed) : (sure p).run.Only allowed :=
  .bind h fun _ => trivial

theorem only_faultOf {work : Attempted α} (h : work.run.Only allowed)
    : (faultOf work).Only allowed :=
  .bind h fun _ => trivial

theorem plain_ask {r : Request} (h : r.kind = .plain) : Plain (ask r) :=
  Program.Only.request_iff.2 h

theorem plain_say {level : Log.Level} {origin message : String}
    : Plain (say level origin message) :=
  plain_ask rfl

-----------------------------------------------------------------------------
-- The parts of the device

theorem plain_isOnline : Plain Radio.isOnline := by
  refine .bind (plain_ask rfl) fun associated => ?_
  split
  · exact .bind (plain_ask rfl) fun _ => trivial
  · trivial

theorem plain_join (credentials : Provision.Credentials)
    : Plain (faultOf (Radio.join credentials)) := by
  refine only_faultOf ?_
  refine .except_bind ?_ fun station => ?_
  · cases Radio.station credentials <;> trivial
  refine .except_bind (only_trying (plain_ask rfl)) fun _ => ?_
  refine .except_bind (only_sure plain_say) fun _ => ?_
  refine .except_bind (only_trying (plain_ask rfl)) fun _ => ?_
  refine .except_bind (only_trying (plain_ask rfl)) fun _ => ?_
  refine .except_bind (only_trying (plain_ask rfl)) fun _ => ?_
  exact only_sure plain_say

theorem plain_lookUp (key : Provision.Key) : Plain (Store.lookUp key) :=
  .bind (plain_ask rfl) fun _ => trivial

theorem plain_mark (reason : Reset.Reason) : Plain (faultOf (mark reason)) :=
  only_faultOf (.except_bind (only_sure (plain_ask rfl)) fun _ => only_trying (plain_ask rfl))

theorem plain_light (lamp : Lamp) : Plain (Pins.light lamp) := by
  refine .bind ?_ fun answer => ?_
  · refine .except_bind (plain_ask rfl) fun _ => ?_
    exact .except_bind (plain_ask rfl) fun _ => plain_ask rfl
  · cases answer with
    | ok _ => trivial
    | error code => exact plain_say

end Caretaker.Device
