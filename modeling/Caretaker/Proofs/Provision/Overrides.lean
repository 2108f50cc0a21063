import Caretaker.Proofs.Cycle.Steps

/-!
Looking up where releases come from. All three settings are looked up whatever becomes of the
others. The project key stands for itself, while the two hosts are taken together or not at all, and
nothing is taken of a setting without a text.
-/

namespace Caretaker.Provision.Backend

open Site

-----------------------------------------------------------------------------
-- What is overridden

section

variable {ε : Type} {key chunks device : Except ε (Option String)}

/-- A setting could be read, whether or not it is stored. -/
def IsReadable (looked : Except ε (Option String)) : Prop :=
  ∃ stored, looked = .ok stored

/-- What the answers to three lookups override: the project key if a text of its own was read, and
each of the hosts if a text was read for it and the other one could be read as well.
-/
structure Overrides (key chunks device : Except ε (Option String)) (b : Backend) : Prop where
  projectKey (text : String) : b.projectKey = some text ↔ key = .ok (some text) ∧ text ≠ ""
  chunksHost (text : String)
    : b.chunksHost = some text ↔ chunks = .ok (some text) ∧ text ≠ "" ∧ IsReadable device
  deviceHost (text : String)
    : b.deviceHost = some text ↔ device = .ok (some text) ∧ text ≠ "" ∧ IsReadable chunks

/-- Three lookups override one thing only. -/
theorem Overrides.unique {b other : Backend} (overrides : Overrides key chunks device b)
    (others : Overrides key chunks device other)
    : b = other := by
  obtain ⟨projectKey, chunksHost, deviceHost⟩ := b
  obtain ⟨projectKey', chunksHost', deviceHost'⟩ := other
  obtain rfl : projectKey = projectKey' :=
    Option.ext fun text => (overrides.projectKey text).trans (others.projectKey text).symm
  obtain rfl : chunksHost = chunksHost' :=
    Option.ext fun text => (overrides.chunksHost text).trans (others.chunksHost text).symm
  obtain rfl : deviceHost = deviceHost' :=
    Option.ext fun text => (overrides.deviceHost text).trans (others.deviceHost text).symm
  rfl

theorem nonEmpty_eq_some_iff {stored : Option String} {text : String}
    : nonEmpty stored = some text ↔ stored = some text ∧ text ≠ "" := by
  rw [nonEmpty, Option.filter_eq_some_iff, Bool.not_eq_true', ← Bool.not_eq_true,
    String.isEmpty_iff]

/-- The project key that a lookup gives. -/
def keyIn : Except ε (Option String) → Option String
  | .ok stored => nonEmpty stored
  | .error _ => none

/-- What the answers to three lookups come to. -/
def ofLookups (key chunks device : Except ε (Option String)) : Backend :=
  match chunks, device with
  | .ok chunks, .ok device => ⟨keyIn key, nonEmpty chunks, nonEmpty device⟩
  | _, _ => ⟨keyIn key, none, none⟩

theorem keyIn_eq_some_iff {text : String}
    : keyIn key = some text ↔ key = .ok (some text) ∧ text ≠ "" := by
  cases key with
  | ok stored => simp [keyIn, nonEmpty_eq_some_iff]
  | error fault => simp [keyIn]

/-- By cases over whether the hosts could be read. -/
theorem overrides_ofLookups (key chunks device : Except ε (Option String))
    : Overrides key chunks device (ofLookups key chunks device) := by
  rcases chunks with fault | chunks <;> rcases device with fault | device <;>
    constructor <;> intro text <;>
    simp [ofLookups, keyIn_eq_some_iff, nonEmpty_eq_some_iff, IsReadable]

theorem eq_ofLookups_iff {b : Backend}
    : b = ofLookups key chunks device ↔ Overrides key chunks device b := by
  constructor
  · rintro rfl
    exact overrides_ofLookups key chunks device
  · exact fun overrides => overrides.unique (overrides_ofLookups key chunks device)

/-- Nothing is overridden by an empty text. -/
theorem Overrides.ne_empty {b : Backend} (overrides : Overrides key chunks device b)
    : b.projectKey ≠ some "" ∧ b.chunksHost ≠ some "" ∧ b.deviceHost ≠ some "" := by
  refine ⟨fun empty => ?_, fun empty => ?_, fun empty => ?_⟩
  · exact ((overrides.projectKey "").1 empty).2 rfl
  · exact ((overrides.chunksHost "").1 empty).2.1 rfl
  · exact ((overrides.deviceHost "").1 empty).2.1 rfl

end

-----------------------------------------------------------------------------
-- Lookups

section

variable {S : Signature} [Reports S] {lookup : Key → Program S Lookup} {ε : Type}
  {read : Key → Except ε (Option String) → Event S} {warn : String → ε → Event S}
  {key chunks device : Except ε (Option String)}

/-- What is said about a setting: a line if it could not be read. -/
def unread (warn : String → ε → Event S) (what : String) : Except ε (Option String) → List (Event S)
  | .ok _ => []
  | .error e => [warn what e]

/-- What is asked in three lookups, given what reading a setting looks like and what is said if that
fails. All three settings are read whatever becomes of the others.
-/
def lookedUp (read : Key → Except ε (Option String) → Event S) (warn : String → ε → Event S)
    (key chunks device : Except ε (Option String))
    : List (Event S) :=
  read .projectKey key :: unread warn "project key" key
    ++ [read .chunksUrl chunks, read .deviceUrl device]
    ++ unread warn "chunks URL" chunks ++ unread warn "device URL" device

theorem load_eq
    : load lookup = do
        let key ← lookup .projectKey
        warnUnread "project key" key
        let chunks ← lookup .chunksUrl
        let device ← lookup .deviceUrl
        warnUnread "chunks URL" chunks
        warnUnread "device URL" device
        return ofLookups key chunks device := by
  unfold load
  refine bind_congr fun key => bind_congr fun _ => ?_
  refine bind_congr fun chunks => bind_congr fun device => ?_
  refine bind_congr fun _ => bind_congr fun _ => ?_
  cases key <;> cases chunks <;> cases device <;> rfl

/-- What is overridden does not depend on the ways in which reading failed. -/
theorem ofLookups_mapError (faultOf : ε → Fault)
    : ofLookups (key.mapError faultOf) (chunks.mapError faultOf) (device.mapError faultOf)
      = ofLookups key chunks device := by
  cases key <;> cases chunks <;> cases device <;> rfl

/-- Where each lookup reads a setting and nothing else, loading reads the three of them in a fixed
order, warns of each that could not be read, and ends with what they override.
-/
theorem load_runs_iff (faultOf : ε → Fault) {events : List (Event S)} {b : Backend}
    (reads : ∀ {key asked looked}, Runs (lookup key) asked looked
      ↔ ∃ given, asked = [read key given] ∧ looked = given.mapError faultOf)
    (warns : ∀ {what e asked},
      Runs (say .warn origin ("Failed to read " ++ what ++ ": " ++ (faultOf e).text)
        : Program S Unit) asked () ↔ asked = [warn what e])
    : Runs (load lookup) events b
      ↔ ∃ key chunks device, events = lookedUp read warn key chunks device
        ∧ Overrides key chunks device b := by
  have warned_iff {what : String} {given : Except ε (Option String)} {asked : List (Event S)}
      : Runs (warnUnread what (given.mapError faultOf) : Program S Unit) asked ()
        ↔ asked = unread warn what given := by
    cases given with
    | ok stored => exact Runs.done_iff.trans (and_iff_left rfl)
    | error e => exact warns
  rw [load_eq]
  constructor
  · intro ran
    rw [Runs.bind_iff] at ran
    obtain ⟨_, rest, _, rfl, keyed, ran⟩ := ran
    obtain ⟨key, rfl, rfl⟩ := reads.1 keyed
    rw [Runs.bind_iff] at ran
    obtain ⟨_, rest, ⟨⟩, rfl, warned, ran⟩ := ran
    obtain rfl := warned_iff.1 warned
    rw [Runs.bind_iff] at ran
    obtain ⟨_, rest, _, rfl, hosted, ran⟩ := ran
    obtain ⟨chunks, rfl, rfl⟩ := reads.1 hosted
    rw [Runs.bind_iff] at ran
    obtain ⟨_, rest, _, rfl, hosted, ran⟩ := ran
    obtain ⟨device, rfl, rfl⟩ := reads.1 hosted
    rw [Runs.bind_iff] at ran
    obtain ⟨_, rest, ⟨⟩, rfl, warned, ran⟩ := ran
    obtain rfl := warned_iff.1 warned
    obtain ⟨warned, rfl⟩ := Runs.then_done_iff.1 ran
    obtain rfl := warned_iff.1 warned
    refine ⟨key, chunks, device, by simp [lookedUp], ?_⟩
    rw [ofLookups_mapError]
    exact overrides_ofLookups key chunks device
  · rintro ⟨key, chunks, device, rfl, overrides⟩
    rw [eq_ofLookups_iff.2 overrides, ← ofLookups_mapError faultOf]
    simp only [lookedUp, List.append_assoc, List.cons_append, List.nil_append]
    refine (Runs.bind_iff_of (reads.2 ⟨key, rfl, rfl⟩)).2 ?_
    refine (Runs.bind_iff_of (warned_iff.2 rfl)).2 ?_
    refine (Runs.bind_iff_of (reads.2 ⟨chunks, rfl, rfl⟩)).2 ?_
    refine (Runs.bind_iff_of (reads.2 ⟨device, rfl, rfl⟩)).2 ?_
    refine (Runs.bind_iff_of (warned_iff.2 rfl)).2 ?_
    exact Runs.then_done_iff.2 ⟨warned_iff.2 rfl, rfl⟩

end

/-- A site is asked for a setting. -/
def asking (key : Key) (looked : Lookup) : Event Site :=
  ⟨.setting key, looked⟩

/-- A line tells that a setting could not be read at a site. -/
def unreadLine (what : String) (fault : Fault) : Event Site :=
  said .warn "settings" ("Failed to read " ++ what ++ ": " ++ fault.text)

theorem load_site_runs_iff {events : List (Event Site)} {b : Backend}
    : Runs (load Site.setting) events b
      ↔ ∃ key chunks device, events = lookedUp asking unreadLine key chunks device
        ∧ Overrides key chunks device b := by
  refine load_runs_iff id ?_ say_runs_iff
  intro key asked looked
  have same (given : Lookup) : given.mapError id = given := by cases given <;> rfl
  simp only [same]
  refine Runs.request_iff.trans ?_
  simp [asking]

end Caretaker.Provision.Backend
