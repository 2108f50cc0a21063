import Caretaker.Proofs.Json.Filling
import Caretaker.Policy.Codec

/-!
The settings of a policy one by one: under which names they are stored, which values spell them, and
what the members of a stored policy make of a draft.
-/

namespace Caretaker.Policy

open Json

/-- One setting of a policy, with its value. -/
inductive Setting where
  | checkSeconds (n : UInt32)
  | joins (b : Bool)
  | countsChecks (b : Bool)
  | downloads (b : Bool)
  | patrolMillis (n : UInt32)
  | stuckMillis (n : UInt32)
  | escalation (e : Escalation)
  | canary (b : Bool)
  | canaryMillis (n : UInt32)
deriving Repr, DecidableEq

namespace Setting

/-- The name under which a setting is stored. -/
def name : Setting → String
  | .checkSeconds _ => "ota_check_interval_secs"
  | .joins _ => "wifi_autojoin"
  | .countsChecks _ => "record_sync_metrics"
  | .downloads _ => "download_updates"
  | .patrolMillis _ => "watchdog_check_interval_ms"
  | .stuckMillis _ => "watchdog_timeout_ms"
  | .escalation _ => "watchdog_action"
  | .canary _ => "example_task_enabled"
  | .canaryMillis _ => "example_task_interval_ms"

/-- The values that spell a setting. -/
def Spells (s : Setting) (value : List UInt8) : Prop :=
  match s with
  | .checkSeconds n | .patrolMillis n | .stuckMillis n | .canaryMillis n => Decimal n.toNat value
  | .joins b | .countsChecks b | .downloads b | .canary b =>
    value = codes (if b then "true" else "false")
  | .escalation e => Chosen Escalation.names e value

/-- A policy with one setting replaced. -/
def apply (p : Policy) : Setting → Policy
  | .checkSeconds n => { p with checkSeconds := n }
  | .joins b => { p with joins := b }
  | .countsChecks b => { p with countsChecks := b }
  | .downloads b => { p with downloads := b }
  | .patrolMillis n => { p with patrolMillis := n }
  | .stuckMillis n => { p with stuckMillis := n }
  | .escalation e => { p with escalation := e }
  | .canary b => { p with canary := b }
  | .canaryMillis n => { p with canaryMillis := n }

/-- A draft with one setting filled in. -/
def put (d : Draft) : Setting → Draft
  | .checkSeconds n => { d with checkSeconds := some n }
  | .joins b => { d with joins := some b }
  | .countsChecks b => { d with countsChecks := some b }
  | .downloads b => { d with downloads := some b }
  | .patrolMillis n => { d with patrolMillis := some n }
  | .stuckMillis n => { d with stuckMillis := some n }
  | .escalation e => { d with escalation := some e }
  | .canary b => { d with canary := some b }
  | .canaryMillis n => { d with canaryMillis := some n }

/-- Filling a draft replaces a setting of the policy that it overlays. -/
theorem overlay_put (d : Draft) (s : Setting) : (put d s).overlay = apply d.overlay s := by
  cases s <;> rfl

/-- Settings of different names do not disturb each other. -/
theorem apply_comm {p : Policy} {s t : Setting} (different : s.name ≠ t.name)
    : apply (apply p s) t = apply (apply p t) s := by
  cases s <;> cases t <;> first | rfl | exact absurd rfl different

end Setting

open Setting

/-- The names under which settings are stored. -/
def settingNames : List String :=
  shape.members.map (·.name)

theorem name_mem_settingNames (s : Setting) : s.name ∈ settingNames := by
  cases s <;> simp [settingNames, shape, Setting.name]

-----------------------------------------------------------------------------
-- Members

/-- A member for which the value of one kind of setting is read. -/
theorem Setting.takes_of {α : Type} {reader : Reader α} {spells : α → List UInt8 → Prop}
    {name : String} {d : Draft} (make : α → Setting) (takes : reader.Takes spells)
    (spelled : ∀ a value, (make a).Spells value ↔ spells a value)
    (named : ∀ s : Setting, s.name = name ↔ ∃ a, s = make a)
    : Reader.Takes (do return put d (make (← reader)))
        fun filled value => ∃ s : Setting, s.name = name ∧ s.Spells value ∧ filled = put d s :=
  takes.put make spelled named

/-- Every member of a stored policy takes the values that spell the setting of its name. -/
theorem fill_takes {m : Member Draft} (member : m ∈ shape.members) (d : Draft)
    : (m.fill d).Takes
        fun filled value => ∃ s : Setting, s.name = m.name ∧ s.Spells value ∧ filled = put d s := by
  simp only [shape, List.mem_cons, List.not_mem_nil, or_false] at member
  rcases member with rfl | rfl | rfl | rfl | rfl | rfl | rfl | rfl | rfl
  · refine Setting.takes_of .checkSeconds word32_takes (fun _ _ => .rfl) ?_
    rintro (_ | _) <;> simp [Setting.name]
  · refine Setting.takes_of .joins flag_takes (fun _ _ => .rfl) ?_
    rintro (_ | _) <;> simp [Setting.name]
  · refine Setting.takes_of .countsChecks flag_takes (fun _ _ => .rfl) ?_
    rintro (_ | _) <;> simp [Setting.name]
  · refine Setting.takes_of .downloads flag_takes (fun _ _ => .rfl) ?_
    rintro (_ | _) <;> simp [Setting.name]
  · refine Setting.takes_of .patrolMillis word32_takes (fun _ _ => .rfl) ?_
    rintro (_ | _) <;> simp [Setting.name]
  · refine Setting.takes_of .stuckMillis word32_takes (fun _ _ => .rfl) ?_
    rintro (_ | _) <;> simp [Setting.name]
  · refine Setting.takes_of .escalation choice_takes (fun _ _ => .rfl) ?_
    rintro (_ | _) <;> simp [Setting.name]
  · refine Setting.takes_of .canary flag_takes (fun _ _ => .rfl) ?_
    rintro (_ | _) <;> simp [Setting.name]
  · refine Setting.takes_of .canaryMillis word32_takes (fun _ _ => .rfl) ?_
    rintro (_ | _) <;> simp [Setting.name]

/-- Filling a draft with a setting fills the member of its name and no other. -/
theorem isFilled_put {m : Member Draft} (member : m ∈ shape.members) (d : Draft) (s : Setting)
    : m.isFilled (put d s) = (m.isFilled d || m.name = s.name) := by
  simp only [shape, List.mem_cons, List.not_mem_nil, or_false] at member
  rcases member with rfl | rfl | rfl | rfl | rfl | rfl | rfl | rfl | rfl
  all_goals cases s <;> simp [put, Setting.name]

/-- Stored policies are filled with settings. -/
def filling : Filling shape Setting where
  name := Setting.name
  Spells := Setting.Spells
  empty := {}
  put := Setting.put
  name_mem := name_mem_settingNames
  takes := fill_takes
  isFilled_empty member := by
    simp only [shape, List.mem_cons, List.not_mem_nil, or_false] at member
    rcases member with rfl | rfl | rfl | rfl | rfl | rfl | rfl | rfl | rfl <;> rfl
  isFilled_put := isFilled_put

end Caretaker.Policy
