import Mathlib.Data.List.Perm.Basic
import Mathlib.Data.List.Nodup
import Caretaker.Proofs.Policy.Settings
import Caretaker.Proofs.Json.Rendering

/-!
Stored policies are overlays. A stored record replaces the default settings that it names, wherever
in it they stand and whatever stands between them; a record that names a setting twice or gives it
a value of another kind is no policy at all.
-/

namespace Caretaker.Policy

open Json Setting

/-- The members of a record give these settings in this order, among members of other names. -/
inductive Gives : List Entry → List Setting → Prop where
  | nil : Gives [] []
  | setting {entry : Entry} {entries : List Entry} {s : Setting} {settings : List Setting}
      (named : s.name = entry.1) (spells : s.Spells entry.2) (more : Gives entries settings)
      : Gives (entry :: entries) (s :: settings)
  | other {entry : Entry} {entries : List Entry} {settings : List Setting}
      (unknown : entry.1 ∉ settingNames) (more : Gives entries settings)
      : Gives (entry :: entries) settings

/-- The default policy with these settings in place of its own. -/
def overlaid (settings : List Setting) : Policy :=
  settings.foldl apply {}

/-- What is made of a policy that has been read: its first flaw is the reason to refuse it. -/
def judged (p : Policy) : Except Rejection Policy :=
  match p.flaw? with
  | some flaw => .error (.flawed flaw)
  | none => .ok p

-----------------------------------------------------------------------------
-- Drafts

/-- The draft that has these settings and no others. -/
def draftOf (settings : List Setting) : Draft :=
  settings.foldl put {}

theorem draftOf_concat (settings : List Setting) (s : Setting)
    : draftOf (settings ++ [s]) = put (draftOf settings) s := by
  simp [draftOf]

/-- The draft of some settings overlays the defaults with them, by induction from the last one. -/
theorem overlay_draftOf (settings : List Setting)
    : (draftOf settings).overlay = overlaid settings := by
  induction settings using List.reverseRecOn with
  | nil => rfl
  | append_singleton settings s ih =>
    rw [draftOf_concat, overlay_put, ih]
    simp [overlaid]

-----------------------------------------------------------------------------
-- Members

/-- What a record gives is what its members are filled with, by induction over them. -/
theorem gives_iff {entries : List Entry} {settings : List Setting}
    : filling.Gives entries settings ↔ Gives entries settings := by
  constructor
  · intro gives
    induction gives with
    | nil => exact .nil
    | known named spells _ ih => exact .setting named spells ih
    | other unknown _ ih => exact .other unknown ih
  · intro gives
    induction gives with
    | nil => exact .nil
    | setting named spells _ ih => exact .known named spells ih
    | other unknown _ ih => exact .other unknown ih

/-- The settings that are given are the members of known names, by induction over the members. -/
theorem Gives.names {entries : List Entry} {settings : List Setting}
    (gives : Gives entries settings)
    : settings.map Setting.name = (entries.map Prod.fst).filter (· ∈ settingNames) := by
  induction gives with
  | nil => rfl
  | @setting _ _ s _ named _ _ ih =>
    have known := name_mem_settingNames s
    rw [named] at known
    simp [ih, named, known]
  | other unknown _ ih => simp [ih, unknown]

/-- A member of a known name gives its setting, by induction over the members before it. -/
theorem Gives.of_mem {entries : List Entry} {settings : List Setting} {entry : Entry}
    (gives : Gives entries settings) (member : entry ∈ entries) (known : entry.1 ∈ settingNames)
    : ∃ s : Setting, s.name = entry.1 ∧ s.Spells entry.2 := by
  induction gives with
  | nil => cases member
  | setting named spells _ ih =>
    rcases List.mem_cons.1 member with rfl | member
    · exact ⟨_, named, spells⟩
    · exact ih member
  | other unknown _ ih =>
    rcases List.mem_cons.1 member with rfl | member
    · exact absurd known unknown
    · exact ih member

-----------------------------------------------------------------------------
-- Values of another kind

/-- The names of settings that are numbers. -/
def numberNames : List String :=
  ["ota_check_interval_secs", "watchdog_check_interval_ms", "watchdog_timeout_ms",
    "example_task_interval_ms"]

/-- The names of settings that are truth values. -/
def flagNames : List String :=
  ["wifi_autojoin", "record_sync_metrics", "download_updates", "example_task_enabled"]

/-- A value that is none of its setting: for a number anything but a decimal of 32 bits, for a truth
value anything but the two words, and for the escalation a text that is no name of one.
-/
inductive Misfit : Entry → Prop where
  | number {name : String} {value : List UInt8} (isNumber : name ∈ numberNames)
      (noNumber : ∀ n : UInt32, ¬ Decimal n.toNat value)
      : Misfit (name, value)
  | flag {name : String} {value : List UInt8} (isFlag : name ∈ flagNames)
      (noFlag : value ≠ codes "true" ∧ value ≠ codes "false")
      : Misfit (name, value)
  | escalation {text : String} {value : List UInt8} (spells : Json.Spells text value)
      (noName : ∀ e : Escalation, text ≠ e.name)
      : Misfit ("watchdog_action", value)

theorem Misfit.name_mem {entry : Entry} (misfit : Misfit entry) : entry.1 ∈ settingNames := by
  cases misfit with
  | number isNumber => exact (by decide : numberNames ⊆ settingNames) isNumber
  | flag isFlag => exact (by decide : flagNames ⊆ settingNames) isFlag
  | escalation => exact (by decide : "watchdog_action" ∈ settingNames)

/-- Only one text is spelled by a value. -/
theorem spells_unique {s t : String} {value : List UInt8} (one : Json.Spells s value)
    (other : Json.Spells t value)
    : s = t := by
  obtain ⟨spelling, rfl, spelled⟩ := one
  obtain ⟨spelling', same, spelled'⟩ := other
  obtain rfl := (List.cons.inj same).2
  have reads : Reads Reader.textBody (spelling ++ []) s [] := spelled.textBody_reads
  exact (reads.unique spelled'.textBody_reads).1

/-- A text that spells an escalation is its name. -/
theorem eq_name_of_chosen {text : String} {value : List UInt8} {e : Escalation}
    (spells : Json.Spells text value) (chosen : Chosen Escalation.names e value)
    : text = e.name := by
  cases chosen with
  | @name found _ _ names spells' =>
    obtain rfl := spells_unique spells spells'
    simp only [Escalation.names, List.lookup_cons, List.lookup_nil] at names
    split at names
    case h_1 same =>
      cases names
      exact beq_iff_eq.1 same
    case h_2 =>
      split at names
      case h_1 same =>
        cases names
        exact beq_iff_eq.1 same
      case h_2 => cases names
  | alone =>
    obtain ⟨_, same, -⟩ := spells
    exact absurd (List.cons.inj same).1 (by decide)

/-- A value of another kind spells no setting of its name. -/
theorem Misfit.not_spells {entry : Entry} (misfit : Misfit entry) {s : Setting}
    (named : s.name = entry.1)
    : ¬ s.Spells entry.2 := by
  cases misfit with
  | number isNumber noNumber =>
    subst named
    cases s
    case checkSeconds n | patrolMillis n | stuckMillis n | canaryMillis n => exact noNumber n
    all_goals simp [numberNames, Setting.name] at isNumber
  | flag isFlag noFlag =>
    subst named
    cases s
    case joins b | countsChecks b | downloads b | canary b =>
      cases b
      · exact noFlag.2
      · exact noFlag.1
    all_goals simp [flagNames, Setting.name] at isFlag
  | escalation spells noName =>
    cases s
    case escalation e => exact fun chosen => noName e (eq_name_of_chosen spells chosen)
    all_goals simp [Setting.name] at named

-----------------------------------------------------------------------------
-- Stored records

/-- The order in which different settings are put in place does not matter. -/
theorem overlaid_perm {settings others : List Setting} (same : others.Perm settings)
    (distinct : (settings.map Setting.name).Nodup)
    : overlaid others = overlaid settings := by
  refine same.foldl_eq' ?_ _
  intro s sMember t tMember p
  by_cases equal : s = t
  · rw [equal]
  · refine apply_comm fun sameName => equal ?_
    exact List.inj_on_of_nodup_map distinct (same.subset sMember) (same.subset tMember) sameName

/-- A name occurs twice among the members. -/
def Repeats (entries : List Entry) : Prop :=
  ∃ name ∈ settingNames, [name, name].Sublist (entries.map Prod.fst)

section Stored

variable {entries : List Entry} {before record behind : List UInt8}

/-- What a stored record is decoded to, if it is. -/
theorem decode_eq_ok_iff {filled : Draft} (isRecord : IsRecord entries record)
    (isBefore : Blank before)
    : Reader.decode (shape.read {}) (before ++ (record ++ behind)) = .ok filled
      ↔ Blank behind ∧ ∃ settings, Gives entries settings
        ∧ (settings.map Setting.name).Nodup ∧ filled = draftOf settings := by
  simp only [← gives_iff]
  exact filling.decode_eq_ok_iff isRecord isBefore

theorem ofJson_of_gives {settings : List Setting} (isRecord : IsRecord entries record)
    (isBefore : Blank before) (gives : Gives entries settings)
    (distinct : (settings.map Setting.name).Nodup) (isBehind : Blank behind)
    : ofJson (before ++ (record ++ behind)) = judged (overlaid settings) := by
  rw [ofJson, (decode_eq_ok_iff isRecord isBefore).2 ⟨isBehind, settings, gives, distinct, rfl⟩]
  dsimp only
  rw [overlay_draftOf]
  rfl

theorem ofJson_of_fault (isRecord : IsRecord entries record) (isBefore : Blank before)
    (fault : Repeats entries ∨ (∃ entry ∈ entries, Misfit entry) ∨ ¬ Blank behind)
    : ∃ error, ofJson (before ++ (record ++ behind)) = .error (.unreadable error) := by
  unfold ofJson
  cases decoded : Reader.decode (shape.read {}) (before ++ (record ++ behind)) with
  | error error => exact ⟨error, rfl⟩
  | ok filled =>
    obtain ⟨isBehind, settings, gives, distinct, -⟩ :=
      (decode_eq_ok_iff isRecord isBefore).1 decoded
    rcases fault with ⟨name, known, twice⟩ | ⟨entry, member, misfit⟩ | noBlank
    · rw [gives.names] at distinct
      have twice := twice.filter (· ∈ settingNames)
      simp only [known, decide_true, List.filter_cons_of_pos, List.filter_nil] at twice
      exact absurd (distinct.sublist twice) (by simp)
    · obtain ⟨s, named, spells⟩ := gives.of_mem member misfit.name_mem
      exact absurd spells (misfit.not_spells named)
    · exact absurd isBehind noBlank

/-- A stored record that gives different settings overlays the defaults with them, and is judged by
the policy that comes out: neither their order nor blanks nor other members make a difference. One
that repeats a setting, gives it a value of another kind or is followed by more is not read.
-/
theorem ofJson_overlays (isRecord : IsRecord entries record) (isBefore : Blank before)
    : (∀ settings, Gives entries settings → (settings.map Setting.name).Nodup → Blank behind
        → ofJson (before ++ (record ++ behind)) = judged (overlaid settings)
          ∧ ∀ others, others.Perm settings → overlaid others = overlaid settings)
      ∧ (Repeats entries ∨ (∃ entry ∈ entries, Misfit entry) ∨ ¬ Blank behind
        → ∃ error, ofJson (before ++ (record ++ behind)) = .error (.unreadable error)) := by
  refine ⟨fun settings gives distinct isBehind => ⟨?_, fun others same => ?_⟩, ?_⟩
  · exact ofJson_of_gives isRecord isBefore gives distinct isBehind
  · exact overlaid_perm same distinct
  · exact ofJson_of_fault isRecord isBefore

end Stored

/-- A record with a setting, another member and a line end behind it, and one that repeats the
setting.
-/
theorem ofJson_overlays_joins
    : ofJson (Text.toBytes
        (Value.record [("wifi_autojoin", .flag false), ("note", .list [.whole 1])]).render
          ++ [code '\n'])
        = .ok { joins := false }
      ∧ ∃ error, ofJson (Text.toBytes
        (Value.record [("wifi_autojoin", .flag false), ("wifi_autojoin", .flag true)]).render)
        = .error (.unreadable error) := by
  have areValues (members : List (String × Value))
      : ∀ m ∈ members, IsValue (Text.toBytes m.2.render) := fun m _ => isValue_render m.2
  constructor
  · have gives : Gives
        ([("wifi_autojoin", Value.flag false), ("note", Value.list [.whole 1])].map entryOf)
        [.joins false] :=
      .setting rfl rfl (.other (by decide) .nil)
    have isBehind : Blank [code '\n'] := by
      intro b member
      rw [List.mem_singleton.1 member]
      rfl
    exact ((ofJson_overlays (isRecord_render (areValues _)) .nil).1 _ gives (by decide) isBehind).1
  · have repeats : Repeats
        ([("wifi_autojoin", Value.flag false), ("wifi_autojoin", Value.flag true)].map entryOf) :=
      ⟨"wifi_autojoin", by decide, .refl _⟩
    have refused : ∃ error, ofJson ([] ++ (_ ++ [])) = .error (.unreadable error) :=
      (ofJson_overlays (isRecord_render (areValues _)) .nil).2 (.inl repeats)
    rwa [List.nil_append, List.append_nil] at refused

end Caretaker.Policy
