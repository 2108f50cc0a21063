import Caretaker.Proofs.Program.Paths
import Caretaker.Provision

/-!
Loading the stored credentials. The name is looked up first, and the password only if the name
could be read; credentials come of it if both are there and usable.
-/

namespace Caretaker.Provision

variable {S : Signature} {lookup : Key → Program S Lookup} {looking : List (Event S)}

/-- A usable text is neither empty nor too long. -/
theorem isUsable_iff {s : String}
    : isUsable s = true ↔ s.isEmpty = false ∧ s.utf8ByteSize ≤ credentialLimit := by
  simp [isUsable]

namespace Credentials

theorem ofStored?_eq_some_iff {ssid password : Option String} {c : Credentials}
    : ofStored? ssid password = some c
      ↔ (ssid = some c.ssid ∧ isUsable c.ssid = true)
        ∧ password = some c.password ∧ isUsable c.password = true := by
  simp only [← Option.filter_eq_some_iff, ofStored?]
  cases ssid.filter isUsable with
  | none => simp
  | some name =>
    cases password.filter isUsable with
    | none => simp
    | some word =>
      obtain ⟨ssid, password⟩ := c
      simp

/-- Both the name and the password say something, in no more than 64 bytes. -/
def IsUsable (c : Credentials) : Prop :=
  (c.ssid ≠ "" ∧ c.ssid.utf8ByteSize ≤ 64) ∧ c.password ≠ "" ∧ c.password.utf8ByteSize ≤ 64

/-- Credentials are made of what is stored if and only if it can be used. -/
theorem ofStored?_eq_some_iff_isUsable {ssid password : Option String} {c : Credentials}
    : ofStored? ssid password = some c
      ↔ c.IsUsable ∧ ssid = some c.ssid ∧ password = some c.password := by
  have usable {s : String} : isUsable s = true ↔ s ≠ "" ∧ s.utf8ByteSize ≤ 64 := by
    rw [isUsable_iff, ← Bool.not_eq_true, String.isEmpty_iff]
    rfl
  rw [ofStored?_eq_some_iff, usable, usable]
  constructor
  · rintro ⟨⟨named, name⟩, spelled, word⟩
    exact ⟨⟨name, word⟩, named, spelled⟩
  · rintro ⟨⟨name, word⟩, named, spelled⟩
    exact ⟨⟨named, name⟩, spelled, word⟩

/-- How credentials are loaded, with what is looked up and what comes of it. -/
inductive Loading (lookup : Key → Program S Lookup)
    : List (Event S) → Except Fault (Option Credentials) → Prop where
  | unnamed {first : List (Event S)} {fault : Fault}
      (failed : Runs (lookup .ssid) first (.error fault))
      : Loading lookup first (.error fault)
  | unspelled {first second : List (Event S)} {ssid : Option String} {fault : Fault}
      (named : Runs (lookup .ssid) first (.ok ssid))
      (failed : Runs (lookup .password) second (.error fault))
      : Loading lookup (first ++ second) (.error fault)
  | looked {first second : List (Event S)} {ssid password : Option String}
      (named : Runs (lookup .ssid) first (.ok ssid))
      (spelled : Runs (lookup .password) second (.ok password))
      : Loading lookup (first ++ second) (.ok (ofStored? ssid password))

/-- Credentials are loaded in one of these ways, by cases over the two answers. -/
theorem loading_iff {loaded : Except Fault (Option Credentials)}
    : Runs (load lookup) looking loaded ↔ Loading lookup looking loaded := by
  rw [load, Runs.bind_iff]
  constructor
  · rintro ⟨first, rest, name, rfl, named, ran⟩
    cases name with
    | error fault =>
      obtain ⟨rfl, rfl⟩ := Runs.done_iff.1 ran
      rw [List.append_nil]
      exact .unnamed named
    | ok ssid =>
      obtain ⟨second, nothing, word, rfl, spelled, last⟩ := Runs.bind_iff.1 ran
      cases word with
      | error fault =>
        obtain ⟨rfl, rfl⟩ := Runs.done_iff.1 last
        rw [List.append_nil]
        exact .unspelled named spelled
      | ok password =>
        obtain ⟨rfl, rfl⟩ := Runs.done_iff.1 last
        rw [List.append_nil]
        exact .looked named spelled
  · intro loading
    cases loading with
    | @unnamed _ fault failed =>
      exact ⟨looking, [], .error fault, (List.append_nil _).symm, failed, .done _⟩
    | @unspelled first second ssid fault named failed =>
      refine ⟨first, second, .ok ssid, rfl, named, Runs.bind_iff.2 ?_⟩
      exact ⟨second, [], .error fault, (List.append_nil _).symm, failed, .done _⟩
    | @looked first second ssid password named spelled =>
      refine ⟨first, second, .ok ssid, rfl, named, Runs.bind_iff.2 ?_⟩
      exact ⟨second, [], .ok password, (List.append_nil _).symm, spelled, .done _⟩

/-- Credentials are loaded if the name and then the password are looked up, are there and are
usable.
-/
theorem load_runs_iff {c : Credentials}
    : Runs (load lookup) looking (.ok (some c))
      ↔ ∃ first second, looking = first ++ second
        ∧ Runs (lookup .ssid) first (.ok (some c.ssid)) ∧ isUsable c.ssid = true
        ∧ Runs (lookup .password) second (.ok (some c.password))
        ∧ isUsable c.password = true := by
  rw [loading_iff]
  constructor
  · intro loading
    generalize same : Except.ok (some c) = loaded at loading
    cases loading with
    | unnamed | unspelled => cases same
    | looked named spelled =>
      obtain ⟨⟨rfl, name⟩, rfl, word⟩ := ofStored?_eq_some_iff.1 (Except.ok.inj same).symm
      exact ⟨_, _, rfl, named, name, spelled, word⟩
  · rintro ⟨first, second, rfl, named, name, spelled, word⟩
    have made := ofStored?_eq_some_iff.2 ⟨⟨rfl, name⟩, rfl, word⟩
    exact made ▸ Loading.looked named spelled

end Credentials

end Caretaker.Provision
