import Caretaker.Proofs.Policy.Overlay
import Caretaker.Device.Store

/-!
Stored policies survive. A policy that is written and read again is judged as it was before, its
text fits the room there is for it, and whatever is read as a policy is sound.
-/

namespace Caretaker.Policy

open Json Setting Text

/-- The settings of a policy, in the order in which they are written. -/
def settings (p : Policy) : List Setting :=
  [.checkSeconds p.checkSeconds, .joins p.joins, .countsChecks p.countsChecks,
    .downloads p.downloads, .patrolMillis p.patrolMillis, .stuckMillis p.stuckMillis,
    .escalation p.escalation, .canary p.canary, .canaryMillis p.canaryMillis]

/-- A policy overlays any other with all its settings. -/
theorem overlaid_settings (p : Policy) : overlaid p.settings = p := by
  cases p
  rfl

/-- The members of a policy as a value to be written. -/
def members (p : Policy) : List (String × Value) :=
  match p.toValue with
  | .record members => members
  | _ => []

theorem toBytes_flag (b : Bool)
    : toBytes (Value.flag b).render = codes (if b then "true" else "false") := by
  cases b <;> rfl

theorem chosen_name (e : Escalation)
    : Chosen Escalation.names e (toBytes (Value.text e.name).render) := by
  refine .name ?_ (spells_quote e.name)
  cases e <;> rfl

/-- What is written of a policy gives its settings. -/
theorem gives_settings (p : Policy) : Gives (p.members.map entryOf) p.settings :=
  .setting rfl (decimal_toString _) <| .setting rfl (toBytes_flag _) <|
  .setting rfl (toBytes_flag _) <| .setting rfl (toBytes_flag _) <|
  .setting rfl (decimal_toString _) <| .setting rfl (decimal_toString _) <|
  .setting rfl (chosen_name _) <| .setting rfl (toBytes_flag _) <|
  .setting rfl (decimal_toString _) .nil

theorem isRecord_toJson (p : Policy) : IsRecord (p.members.map entryOf) (toBytes p.toJson) :=
  isRecord_render fun m _ => isValue_render m.2

/-- A policy that is written is judged when it is read. -/
theorem ofJson_toJson (p : Policy) : ofJson (toBytes p.toJson) = judged p := by
  have distinct : (p.settings.map Setting.name).Nodup := (by decide : settingNames.Nodup)
  have read := ofJson_of_gives (isRecord_toJson p) .nil (gives_settings p) distinct .nil
  rwa [List.nil_append, List.append_nil, overlaid_settings] at read

/-- What is read as a policy is sound. -/
theorem sound_of_ofJson {bytes : List UInt8} {p : Policy} (read : ofJson bytes = .ok p)
    : p.Sound := by
  unfold ofJson at read
  cases decoded : Reader.decode (shape.read {}) bytes with
  | error e => simp [decoded] at read
  | ok d =>
    cases flawed : d.overlay.flaw? with
    | some flaw => simp [decoded, flawed] at read
    | none =>
      simp only [decoded, flawed, Except.ok.injEq] at read
      rw [← read]
      exact flawed

theorem judged_of_sound {p : Policy} (sound : p.Sound) : judged p = .ok p := by
  rw [judged, sound]

-----------------------------------------------------------------------------
-- Room

theorem length_flag (b : Bool) : (toBytes (Value.flag b).render).length ≤ 5 := by
  cases b <;> decide

theorem length_escalation (e : Escalation) : (toBytes (Value.text e.name).render).length ≤ 9 := by
  cases e <;> decide

theorem length_toJson (p : Policy) : (toBytes p.toJson).length ≤ Device.Store.policyRoom := by
  have whole (n : UInt32) : (toBytes (Value.whole n.toNat).render).length ≤ 10 :=
    length_whole (Nat.lt_trans n.toNat_lt (by decide))
  have flag := length_flag
  have names : (settingNames.map fun name => (toBytes (quote name)).length).sum ≤ 300 := by decide
  have length := length_record p.members
  have escalation := length_escalation p.escalation
  simp only [members, toValue, List.map_cons, List.map_nil, List.sum_cons, List.sum_nil] at length
  simp only [settingNames, shape, List.map_cons, List.map_nil, List.sum_cons, List.sum_nil] at names
  have := whole p.checkSeconds
  have := whole p.patrolMillis
  have := whole p.stuckMillis
  have := whole p.canaryMillis
  have := flag p.joins
  have := flag p.countsChecks
  have := flag p.downloads
  have := flag p.canary
  show _ ≤ 1024
  refine Nat.le_trans length ?_
  omega

/-- A policy survives being stored: its text has room, and reading it again gives the policy or its
own first flaw. What is read as a policy has no interval of zero, and is read again as the same.
-/
theorem policy_survives
    : (∀ p : Policy, (toBytes p.toJson).length ≤ Device.Store.policyRoom
        ∧ ofJson (toBytes p.toJson)
          = match p.flaw? with
            | some flaw => .error (.flawed flaw)
            | none => .ok p)
      ∧ ∀ bytes p, ofJson bytes = .ok p
        → p.Sound ∧ p.checkSeconds ≠ 0 ∧ p.patrolMillis ≠ 0 ∧ p.stuckMillis ≠ 0
          ∧ (p.canary = true → p.canaryMillis ≠ 0) ∧ ofJson (toBytes p.toJson) = .ok p := by
  refine ⟨fun p => ⟨length_toJson p, ofJson_toJson p⟩, fun bytes p read => ?_⟩
  have sound := sound_of_ofJson read
  obtain ⟨check, patrol, stuck, canary⟩ := sound_iff.1 sound
  refine ⟨sound, check, patrol, stuck, canary, ?_⟩
  rw [ofJson_toJson, judged_of_sound sound]

/-- A policy of which only a part was stored survives as a whole. With a canary it would be turned
down, since it has an interval of zero for it.
-/
theorem policy_survives_partial
    : let members : List (String × Value) :=
        [("watchdog_action", .text "Log"), ("example_task_enabled", .flag false),
          ("example_task_interval_ms", .whole 0)]
      let text := toBytes (Value.record members).render
      let p : Policy := { escalation := .log, canary := false, canaryMillis := 0 }
      ofJson text = .ok p
      ∧ p.Sound
      ∧ ofJson (toBytes p.toJson) = .ok p
      ∧ ofJson (toBytes { p with canary := true }.toJson) = .error (.flawed .canaryInterval) := by
  intro members text p
  obtain ⟨written, survives⟩ := policy_survives
  have gives : Gives (members.map entryOf) [.escalation .log, .canary false, .canaryMillis 0] :=
    .setting rfl (chosen_name .log) (.setting rfl (toBytes_flag false)
      (.setting rfl (decimal_toString 0) .nil))
  have isRecord : IsRecord (members.map entryOf) text :=
    isRecord_render fun m _ => isValue_render m.2
  have read := ofJson_of_gives isRecord .nil gives (by decide) .nil
  rw [List.nil_append, List.append_nil] at read
  obtain ⟨sound, -, -, -, -, again⟩ := survives text p read
  exact ⟨read, sound, again, (written { p with canary := true }).2⟩

end Caretaker.Policy
