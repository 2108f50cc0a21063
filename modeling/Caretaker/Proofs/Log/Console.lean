import Caretaker.Proofs.Evidence.Acts
import Caretaker.Rehearsal
import Mathlib.Data.List.Forall2

/-!
What becomes of a record. If its level is kept at that moment, it goes to the console and into the
journal, and otherwise to neither. The console shows the end of its path in a column, cut or filled
up, while the journal has it uncut.
-/

namespace Caretaker

open Log

-----------------------------------------------------------------------------
-- Origins

namespace Log

/-- Two colons in a row somewhere among some characters. -/
def HasColons (cs : List Char) : Prop :=
  [':', ':'] <:+: cs

/-- What stands behind the last two colons of a path that are in a row, or the whole path if there
are none. Of three colons in a row the last two count.
-/
inductive IsLastPart : String → String → Prop where
  | whole {path : String} (none : ¬ HasColons path.toList) : IsLastPart path path
  | behind {path before part : String} (split : path = before ++ "::" ++ part)
      (last : ¬ HasColons (':' :: part.toList))
      : IsLastPart path part

/-- Behind three colons, none is left. -/
example : lastPart "site:::lämp" = "lämp" := by decide

theorem hasColons_of_split {path before part : String} (split : path = before ++ "::" ++ part)
    : HasColons path.toList := by
  refine ⟨before.toList, part.toList, ?_⟩
  rw [split, String.toList_append, String.toList_append]
  rfl

/-- Nothing longer stands behind two colons than behind the last ones. -/
theorem length_le_of_split {path before before' part part' : String}
    (split : path = before ++ "::" ++ part) (split' : path = before' ++ "::" ++ part')
    (last' : ¬ HasColons (':' :: part'.toList))
    : part'.toList.length ≤ part.toList.length := by
  refine Nat.le_of_not_lt fun longer => last' ?_
  have one : [':', ':'] ++ part.toList <:+ path.toList := by
    refine ⟨before.toList, ?_⟩
    rw [split, String.toList_append, String.toList_append, List.append_assoc]
    rfl
  have other : ':' :: part'.toList <:+ path.toList := by
    refine ⟨before'.toList ++ [':'], ?_⟩
    rw [split', String.toList_append, String.toList_append, List.append_assoc, List.append_assoc]
    rfl
  have shorter : ([':', ':'] ++ part.toList).length ≤ (':' :: part'.toList).length := by
    rw [List.length_append, List.length_cons, List.length_cons, List.length_cons, List.length_nil]
    omega
  have within : [':', ':'] ++ part.toList <:+ ':' :: part'.toList :=
    List.suffix_of_suffix_length_le one other shorter
  exact (List.prefix_append ..).isInfix.trans within.isInfix

/-- A path has one last part. -/
theorem IsLastPart.unique {path one other : String} (isOne : IsLastPart path one)
    (isOther : IsLastPart path other)
    : one = other := by
  cases isOne with
  | whole none =>
    cases isOther with
    | whole => rfl
    | behind split => exact absurd (hasColons_of_split split) none
  | behind split last =>
    cases isOther with
    | whole none => exact absurd (hasColons_of_split split) none
    | behind split' last' =>
      have length := Nat.le_antisymm (length_le_of_split split' split last)
        (length_le_of_split split split' last')
      have same := split.symm.trans split'
      rw [← String.toList_inj] at same
      simp only [String.toList_append] at same
      exact String.toList_inj.1 (List.append_inj' same length).2

/-- What a record from a path is filed under. -/
inductive IsOrigin : Option String → String → Prop where
  | unknown : IsOrigin none "unknown"
  | lastPart {path part : String} (isLast : IsLastPart path part) : IsOrigin (some path) part

theorem IsOrigin.unique {path : Option String} {one other : String} (isOne : IsOrigin path one)
    (isOther : IsOrigin path other)
    : one = other := by
  cases isOne with
  | unknown => cases isOther with | unknown => rfl
  | lastPart isLast => cases isOther with | lastPart isLast' => exact isLast.unique isLast'

end Log

namespace Rehearsal

-----------------------------------------------------------------------------
-- What becomes of a record

/-- The entry of a record that went to the console. -/
def Printed.entry (p : Printed) : Entry :=
  p.record.entry p.uptime

/-- What happens to a log. -/
inductive Happening where
  | said (uptime : Nat) (record : Record)
  /-- From now on, the records of other levels are kept. -/
  | leveled (threshold : Threshold)

namespace Happening

/-- Which records are kept afterwards. -/
def threshold (current : Threshold) : Happening → Threshold
  | .said .. => current
  | .leveled threshold => threshold

/-- The record that is kept of it, if its level is. -/
def kept (current : Threshold) : Happening → List Printed
  | .said uptime record => if current.admits record.level then [⟨uptime, record⟩] else []
  | .leveled _ => []

end Happening

/-- The records whose level was kept at the moment when they came in. -/
def kept : Threshold → List Happening → List Printed
  | _, [] => []
  | current, happening :: rest =>
    happening.kept current ++ kept (happening.threshold current) rest

namespace World

/-- What stands on the console. -/
def console (world : World) : List String :=
  world.printed.reverse.map Printed.line

/-- The newest entries of the journal. -/
def ring (world : World) : Ring Entry :=
  world.evidence.journal.ring

/-- The place with nothing on its console and a new journal. -/
def opened (world : World) (threshold : Threshold) : World :=
  { world with evidence := { world.evidence with journal := .empty threshold }, printed := [] }

/-- The place once something more has happened to its log. -/
def hear (world : World) : Happening → World
  | .said uptime record => ((file (.say record)).run { world with uptime := uptime }).2
  | .leveled threshold =>
    let journal := { world.evidence.journal with threshold := threshold }
    { world with evidence := { world.evidence with journal := journal } }

end World

theorem printed_hear_said (world : World) (uptime : Nat) (record : Record)
    : (world.hear (.said uptime record)).printed
      = ((Happening.said uptime record).kept world.evidence.journal.threshold).reverse
        ++ world.printed := by
  have filed : (world.hear (.said uptime record)).printed
      = (world.evidence.say uptime record).records.reverse.map (Printed.mk uptime)
        ++ world.printed := rfl
  rw [filed, Evidence.say, Happening.kept]
  split <;> rfl

theorem ring_hear_said (world : World) (uptime : Nat) (record : Record)
    : (world.hear (.said uptime record)).ring
      = world.ring.pushAll
          (((Happening.said uptime record).kept world.evidence.journal.threshold).map
            Printed.entry) := by
  have noted : (world.hear (.said uptime record)).ring
      = world.ring.pushAll (world.evidence.journal.threshold.entries uptime record) :=
    Journal.ring_note ..
  rw [noted, Threshold.entries, Happening.kept]
  split <;> rfl

/-- The console shows the records that are kept, and the journal holds the newest of them. -/
structure Keeps (threshold : Threshold) (kept : List Printed) (world : World) : Prop where
  threshold : world.evidence.journal.threshold = threshold
  capacity : world.ring.capacity = Log.defaultCapacity
  printed : world.printed.reverse = kept
  values : world.ring.values = newest Log.defaultCapacity (kept.map Printed.entry)

namespace Keeps

variable {threshold : Threshold} {kept : List Printed} {world : World}

theorem opened (world : World) (threshold : Threshold)
    : Keeps threshold [] (world.opened threshold) :=
  ⟨rfl, rfl, rfl, (newest_nil _).symm⟩

/-- A record goes both ways or neither. -/
theorem hear (keeps : Keeps threshold kept world) (happening : Happening)
    : Keeps (happening.threshold threshold) (kept ++ happening.kept threshold)
      (world.hear happening) := by
  cases happening with
  | leveled other =>
    rw [Happening.kept, List.append_nil]
    exact ⟨rfl, keeps.capacity, keeps.printed, keeps.values⟩
  | said uptime record =>
    have printed := printed_hear_said world uptime record
    have noted := ring_hear_said world uptime record
    rw [keeps.threshold] at printed noted
    refine ⟨(Journal.threshold_note ..).trans keeps.threshold, ?capacity, ?printed, ?values⟩
    case capacity => rw [noted, Ring.capacity_pushAll, keeps.capacity]
    case printed => rw [printed, List.reverse_append, List.reverse_reverse, keeps.printed]
    case values =>
      rw [noted, Ring.values_pushAll, keeps.capacity, keeps.values, newest_append_newest,
        List.map_append]

end Keeps

end Rehearsal

end Caretaker
