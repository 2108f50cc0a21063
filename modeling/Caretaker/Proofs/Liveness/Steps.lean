import Caretaker.Liveness.Registry
import Caretaker.Proofs.Cycle.Steps

/-!
What each operation on a registry asks of its site and what it leaves behind. A look for stuck
tasks reads the clock once for each armed entry, and none of its reports is dropped.
-/

namespace Caretaker.Liveness

/-- Time counts up to half the range of the clock. -/
theorem Entry.lt_elapsed_iff {timeout : UInt32} {armedAt now : Stamp}
    : timeout < elapsed armedAt now
      ↔ timeout.toNat < (Stamp.since armedAt now).toNat
        ∧ (Stamp.since armedAt now).toNat ≤ 0x7fffffff := by
  have bound : longest < Stamp.since armedAt now ↔ 0x7fffffff < (Stamp.since armedAt now).toNat :=
    UInt32.lt_iff_toNat_lt
  rw [UInt32.lt_iff_toNat_lt]
  by_cases beyond : longest < Stamp.since armedAt now
  · have none : elapsed armedAt now = 0 := if_pos beyond
    have far := bound.1 beyond
    rw [none, UInt32.toNat_zero]
    omega
  · have all : elapsed armedAt now = Stamp.since armedAt now := if_neg beyond
    have near := mt bound.2 beyond
    rw [all]
    omega

theorem Entry.elapsed_of_le {armedAt now : Stamp}
    (near : (Stamp.since armedAt now).toNat ≤ 0x7fffffff)
    : elapsed armedAt now = Stamp.since armedAt now := by
  refine if_neg fun beyond => ?_
  exact absurd (UInt32.lt_iff_toNat_lt.1 beyond) (Nat.not_lt.2 near)

/-- A report tells the time that has passed and the timeout that it is beyond. -/
theorem Entry.stuck?_eq (entry : Entry) (fallback : UInt32) (armedAt now : Stamp)
    : entry.stuck? fallback armedAt now
      = if (entry.timeout.getD fallback).toNat < (Stamp.since armedAt now).toNat
            ∧ (Stamp.since armedAt now).toNat ≤ 0x7fffffff then
          some ⟨entry.name, Stamp.since armedAt now, entry.timeout.getD fallback⟩
        else
          none := by
  unfold stuck?
  dsimp only
  by_cases late : entry.timeout.getD fallback < elapsed armedAt now
  · have due := lt_elapsed_iff.1 late
    rw [if_pos late, if_pos due, elapsed_of_le due.2]
  · rw [if_neg late, if_neg (late ∘ lt_elapsed_iff.2)]

namespace Registry

open Site

variable {registry after : Registry} {name : String} {events : List (Event Site)}

-----------------------------------------------------------------------------
-- Operations on one entry

/-- What is said about a name that is not registered. -/
def unknownLine (operation name : String) : Event Site :=
  said .warn origin ("Task watchdog " ++ operation ++ " for unregistered name '" ++ name
    ++ "' ignored")

/-- A start stamps the entry of its name, if there is one, with a reading of the clock. -/
theorem start_runs_iff {isKnown : Bool}
    : Runs (start registry name : Program Site _) events (isKnown, after)
      ↔ ((registry.find? name).isSome ∧ isKnown = true
          ∧ ∃ time, events = [⟨.now, time⟩] ∧ after = registry.arm name time)
        ∨ (registry.find? name = none ∧ isKnown = false
          ∧ events = [unknownLine "start" name] ∧ after = registry) := by
  cases found : registry.find? name with
  | none =>
    rw [start, found, if_neg (by simp)]
    exact say_then_runs_iff.trans (by simp [unknownLine, and_left_comm])
  | some entry =>
    rw [start, found, if_pos (by simp), Runs.bind_iff]
    constructor
    · intro h
      obtain ⟨reading, rest, time, rfl, read, ended⟩ := h
      obtain rfl := Runs.request_iff.1 read
      obtain ⟨rfl, same⟩ := Runs.done_iff.1 ended
      cases same
      exact .inl ⟨rfl, rfl, time, rfl, rfl⟩
    · intro h
      rcases h with ⟨-, rfl, time, rfl, rfl⟩ | ⟨nothing, -⟩
      · exact ⟨[⟨.now, time⟩], [], time, rfl, Runs.request_iff.2 rfl, .done _⟩
      · cases nothing

/-- A stop takes the stamp from the entry of its name, if there is one. -/
theorem stop_runs_iff {isKnown : Bool}
    : Runs (stop registry name : Program Site _) events (isKnown, after)
      ↔ ((registry.find? name).isSome ∧ isKnown = true ∧ events = []
          ∧ after = registry.disarm name)
        ∨ (registry.find? name = none ∧ isKnown = false
          ∧ events = [unknownLine "stop" name] ∧ after = registry) := by
  cases found : registry.find? name with
  | none =>
    rw [stop, found, if_neg (by simp)]
    exact say_then_runs_iff.trans (by simp [unknownLine, and_left_comm])
  | some entry =>
    rw [stop, found, if_pos (by simp)]
    exact Runs.done_iff.trans (by simp [and_left_comm])

/-- A name is registered if it is not empty, is new, and there is room for it. -/
theorem register_eq_ok_iff {own : Option UInt32}
    : registry.register name own = .ok after
      ↔ name.isEmpty = false ∧ registry.find? name = none
        ∧ registry.entries.length < registry.capacity
        ∧ after = { registry with entries := registry.entries ++ [⟨name, none, own⟩] } := by
  unfold register
  by_cases empty : name.isEmpty
  · simp [empty]
  by_cases known : (registry.find? name).isSome
  · have found : registry.find? name ≠ none := Option.isSome_iff_ne_none.1 known
    simp [empty, known, found]
  by_cases full : registry.capacity ≤ registry.entries.length
  · simp [empty, known, full, Nat.not_lt.2 full]
  · have new : registry.find? name = none := Option.not_isSome_iff_eq_none.1 known
    simp [empty, new, full, Nat.not_le.1 full, eq_comm]

/-- What is said about a registration. A registry without room and an empty name go unmentioned. -/
def registrationLines (name : String) : Except Refusal Registry → List (Event Site)
  | .ok _ => [said .debug origin ("Task watchdog '" ++ name ++ "' registered")]
  | .error (.duplicate name) => [said .error origin (Refusal.duplicate name).message]
  | .error _ => []

/-- A registration comes to what the registry makes of it. -/
theorem enroll_runs_iff {own : Option UInt32} {answer : Except Refusal Registry}
    : Runs (enroll registry name own : Program Site _) events answer
      ↔ events = registrationLines name (registry.register name own)
        ∧ answer = registry.register name own := by
  unfold enroll
  cases registry.register name own with
  | ok enrolled => exact say_then_runs_iff
  | error refusal =>
    cases refusal with
    | duplicate name => exact say_then_runs_iff
    | full | emptyName => exact Runs.done_iff

-----------------------------------------------------------------------------
-- Looks for stuck tasks

/-- The armed entries with their stamps, in the order of their registration. -/
def armed (entries : List Entry) : List (Entry × Stamp) :=
  entries.filterMap fun entry => entry.armedAt.map (entry, ·)

/-- The reports about armed entries, for one reading of the clock each. -/
def reports (fallback : UInt32) (armed : List (Entry × Stamp)) (readings : List Stamp)
    : List Stuck :=
  (armed.zipWith (fun task now => (task.1.stuck? fallback task.2 now).toList) readings).flatten

/-- The clock has been read. -/
def readEvents (readings : List Stamp) : List (Event Site) :=
  readings.map (⟨.now, ·⟩)

theorem armed_cons (entry : Entry) (rest : List Entry)
    : armed (entry :: rest) = (entry.armedAt.map (entry, ·)).toList ++ armed rest := by
  rw [armed, List.filterMap_cons]
  cases entry.armedAt <;> rfl

theorem reports_cons {fallback : UInt32} {entry : Entry} {armedAt now : Stamp}
    {armed : List (Entry × Stamp)} {readings : List Stamp}
    : reports fallback ((entry, armedAt) :: armed) (now :: readings)
      = (entry.stuck? fallback armedAt now).toList ++ reports fallback armed readings := rfl

theorem collect_of_lt {room : Nat} {before : List Stuck} (fits : before.length < room)
    (report : Option Stuck)
    : collect room before report = before ++ report.toList := by
  cases report with
  | none => exact (List.append_nil before).symm
  | some report => exact if_pos fits

/-- With room for a report about each armed entry, all of them are collected behind those that were
there before. By induction over the entries.
-/
theorem stuckAmong_runs_iff {room : Nat} {fallback : UInt32} {entries : List Entry}
    {before found : List Stuck} (fits : before.length + (armed entries).length ≤ room)
    : Runs (stuckAmong room fallback entries before : Program Site _) events found
      ↔ ∃ readings : List Stamp, readings.length = (armed entries).length
        ∧ events = readEvents readings
        ∧ found = before ++ reports fallback (armed entries) readings := by
  induction entries generalizing before events with
  | nil =>
    rw [stuckAmong, Program.pure_eq_done, Runs.done_iff]
    constructor
    · intro h
      obtain ⟨rfl, rfl⟩ := h
      exact ⟨[], rfl, rfl, (List.append_nil _).symm⟩
    · intro h
      obtain ⟨readings, length, rfl, rfl⟩ := h
      obtain rfl := List.length_eq_zero_iff.1 length
      exact ⟨rfl, List.append_nil _⟩
  | cons entry rest ih =>
    rw [armed_cons] at fits ⊢
    rw [stuckAmong]
    cases isArmed : entry.armedAt with
    | none =>
      rw [isArmed] at fits
      exact ih fits
    | some armedAt =>
      rw [isArmed] at fits
      simp only [Option.map_some, Option.toList_some, List.singleton_append, List.length_cons]
        at fits ⊢
      have more (report : Option Stuck)
          : (before ++ report.toList).length + (armed rest).length ≤ room := by
        have single : report.toList.length ≤ 1 := by
          cases report <;> simp
        rw [List.length_append]
        omega
      rw [Runs.bind_iff]
      constructor
      · intro h
        obtain ⟨reading, others, now, rfl, read, h⟩ := h
        obtain rfl := Runs.request_iff.1 read
        rw [collect_of_lt (by omega)] at h
        obtain ⟨readings, length, rfl, rfl⟩ := (ih (more _)).1 h
        refine ⟨now :: readings, congrArg Nat.succ length, rfl, ?_⟩
        rw [reports_cons, List.append_assoc]
      · intro h
        obtain ⟨readings, length, rfl, rfl⟩ := h
        cases readings with
        | nil => cases length
        | cons now readings =>
          refine ⟨[⟨.now, now⟩], readEvents readings, now, rfl, Runs.request_iff.2 rfl, ?_⟩
          rw [collect_of_lt (by omega)]
          refine (ih (more _)).2 ⟨readings, Nat.succ.inj length, rfl, ?_⟩
          rw [reports_cons, List.append_assoc]

end Registry

end Caretaker.Liveness
