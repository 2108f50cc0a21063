import Caretaker.Proofs.Json.Rendering
import Caretaker.Device.Store

/-!
Stored markers. Every marker has room in the store, and what is written for it is read as the same
marker.
-/

namespace Caretaker.Reset.Marker

open Json Json.Reader Text

/-- The members of a marker as a value to be written. -/
def members (m : Marker) : List (String × Value) :=
  [("reason", .text m.reason.name), ("uptime_ms", .whole m.uptimeMillis.toNat)]

theorem shape_isProper : shape.IsProper := by
  intro member isMember d
  simp only [shape, List.mem_cons, List.not_mem_nil, or_false] at isMember
  rcases isMember with rfl | rfl
  · exact ⟨_, choice_takes.map⟩
  · exact ⟨_, word32_takes.map⟩

/-- What is written for a marker fills a draft with both of its members. -/
theorem fills_members (m : Marker)
    : shape.Fills {} (m.members.map entryOf) ⟨some m.reason, some m.uptimeMillis⟩ := by
  have reason : Chosen Reason.names m.reason (toBytes (Value.text m.reason.name).render) := by
    refine .name ?_ (spells_quote m.reason.name)
    cases m.reason <;> rfl
  have uptime : Decimal m.uptimeMillis.toNat (toBytes (Value.whole m.uptimeMillis.toNat).render) :=
    decimal_toString _
  refine ⟨⟨some m.reason, none⟩, ⟨rfl, ?_⟩, ⟨some m.reason, some m.uptimeMillis⟩, ⟨rfl, ?_⟩, rfl⟩
  · exact (choice_takes.map.alone_iff reason.isValue).2 ⟨m.reason, reason, rfl⟩
  · exact (word32_takes.map.alone_iff uptime.isValue).2 ⟨m.uptimeMillis, uptime, rfl⟩

/-- A marker is read as it was written. -/
theorem ofJson_toJson (m : Marker) : ofJson (toBytes m.toJson) = .ok m := by
  have isRecord : IsRecord (m.members.map entryOf) (toBytes m.toJson) :=
    isRecord_render fun member _ => isValue_render member.2
  have read : Reads (shape.read {}) ([] ++ (toBytes m.toJson ++ [])) _ [] :=
    (Shape.read_reads_iff shape_isProper isRecord .nil).2 ⟨rfl, fills_members m⟩
  rw [List.nil_append, List.append_nil] at read
  rw [ofJson, decode_eq_ok_iff]
  exact ⟨[], read.bind rfl, .nil⟩

/-- There is room for every marker. -/
theorem length_toJson (m : Marker) : (toBytes m.toJson).length ≤ Device.Store.markerRoom := by
  have length := length_record m.members
  have small : m.uptimeMillis.toNat < 10 ^ 10 := Nat.lt_trans m.uptimeMillis.toNat_lt (by decide)
  have uptime := length_whole small
  have reason : (toBytes (Value.text m.reason.name).render).length ≤ 16 := by
    cases m.reason <;> decide
  have names : (toBytes (quote "reason")).length + (toBytes (quote "uptime_ms")).length = 19 := by
    decide
  simp only [members, List.map_cons, List.map_nil, List.sum_cons, List.sum_nil] at length
  show _ ≤ 128
  refine Nat.le_trans length ?_
  omega

end Caretaker.Reset.Marker
