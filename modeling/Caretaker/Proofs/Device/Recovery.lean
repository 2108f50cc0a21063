import Caretaker.Device
import Caretaker.Proofs.Device.Attempts
import Caretaker.Proofs.Device.Flash
import Caretaker.Proofs.Policy.RoundTrip

/-!
A stored policy heals. Whatever is stored and whichever calls fail, a boot gets a sound policy: the
stored one if it can be read and used, and otherwise the default, which is stored for the next boot.
-/

namespace Caretaker.Device.Store

open Attempted Text

variable {flash : Flash} {events : List (Event Platform)} {policy : Policy}

-----------------------------------------------------------------------------
-- Loading

/-- The stored policy is read, or it cannot be read. -/
def reading (answer : Except Code (Option (List UInt8))) : Event Platform :=
  ⟨.call (.readBytes ownSpace policyKey policyRoom), answer⟩

/-- A policy is written, or it cannot be written. -/
def writing (policy : Policy) (answer : Except Code Unit) : Event Platform :=
  ⟨.call (.write ownSpace policyKey policy.toJson), answer⟩

/-- The part of the store with the policy has been opened. -/
def opened : Event Platform :=
  ⟨.call (.openStore ownSpace), .ok ()⟩

/-- The policy in what has been read. -/
def policyIn : Except Code (Option (List UInt8)) → Except Failure Policy
  | .error code => .error (.platform code)
  | .ok none => .error .noPolicy
  | .ok (some bytes) =>
    match Policy.ofJson bytes with
    | .ok policy => .ok policy
    | .error (.unreadable e) => .error (.unreadable e)
    | .error (.flawed flaw) => .error (.flawedPolicy flaw)

/-- What is said about a policy that could not be stored. -/
def complaint : Except Code Unit → List (Event Platform)
  | .ok _ => []
  | .error code => [said .warn origin ("Failed to save default config to NVS: " ++ code.name)]

/-- How a policy is loaded, with what comes of it. -/
inductive Loads : List (Event Platform) → Except Failure Policy → Prop where
  | closed (code : Code)
      : Loads [⟨.call (.openStore ownSpace), .error code⟩] (.error (.platform code))
  | found {answer : Except Code (Option (List UInt8))} {policy : Policy}
      (usable : policyIn answer = .ok policy)
      : Loads [opened, reading answer, said .info origin "Loaded configuration from NVS"]
          (.ok policy)
  | replaced {answer : Except Code (Option (List UInt8))} {failure : Failure}
      (unusable : policyIn answer = .error failure) (saved : Except Code Unit)
      : Loads
          ([opened, reading answer,
              said .warn origin
                ("Failed to load config from NVS: " ++ failure.text ++ ", using defaults"),
              writing {} saved]
            ++ complaint saved)
          (.ok {})

theorem readPolicy_eq
    : readPolicy
      = (do
          let there ← trying (ask (.call (.readBytes ownSpace policyKey policyRoom)))
          ExceptT.mk (.done (policyIn (.ok there)))) := by
  refine bind_congr fun there => ?_
  unfold policyIn
  cases there with
  | none => rfl
  | some bytes =>
    dsimp only
    cases Policy.ofJson bytes with
    | ok policy => rfl
    | error rejection => cases rejection <;> rfl

theorem readPolicy_runs_iff {result : Except Failure Policy}
    : Runs readPolicy.run events result
      ↔ ∃ answer, events = [reading answer] ∧ result = policyIn answer := by
  rw [readPolicy_eq, call_bind_iff Runs.request_iff]
  constructor
  · rintro (⟨code, rfl, rfl⟩ | ⟨there, rest, rfl, ran⟩)
    · exact ⟨.error code, rfl, rfl⟩
    · obtain ⟨rfl, rfl⟩ := Runs.done_iff.1 ran
      exact ⟨.ok there, rfl, rfl⟩
  · rintro ⟨code | there, rfl, rfl⟩
    · exact .inl ⟨code, rfl, rfl⟩
    · exact .inr ⟨there, [], rfl, .done _⟩

/-- The default policy is stored, and it is loaded even if it cannot be. -/
theorem storeDefault_runs_iff {result : Except Failure Policy}
    : Runs (do
          match ← sure (write policyKey ({} : Policy).toJson).run with
          | .ok _ => pure ()
          | .error failure =>
            sure (say .warn origin ("Failed to save default config to NVS: " ++ failure.text))
          return {} : Attempted Policy).run events result
      ↔ ∃ saved, events = writing {} saved :: complaint saved ∧ result = .ok {} := by
  have wrote (first : List (Event Platform)) (answer : Except Failure Unit)
      : Runs (write policyKey ({} : Policy).toJson).run first answer
        ↔ ∃ saved, first = [writing {} saved] ∧ answer = saved.mapError .platform := by
    rw [write, trying_runs_iff]
    exact exists_congr fun saved => and_congr_left fun _ => Runs.request_iff (S := Platform)
  rw [sure_bind_iff]
  constructor
  · rintro ⟨first, rest, answer, rfl, ran, told⟩
    obtain ⟨saved, rfl, rfl⟩ := (wrote _ _).1 ran
    cases saved with
    | ok =>
      obtain ⟨rfl, rfl⟩ := Runs.done_iff.1 told
      exact ⟨.ok (), rfl, rfl⟩
    | error code =>
      obtain ⟨rest, rfl, last⟩ := say_bind_iff.1 told
      obtain ⟨rfl, rfl⟩ := Runs.done_iff.1 last
      exact ⟨.error code, rfl, rfl⟩
  · rintro ⟨saved, rfl, rfl⟩
    refine ⟨[_], complaint saved, _, rfl, (wrote _ _).2 ⟨saved, rfl, rfl⟩, ?_⟩
    cases saved with
    | ok => exact .done _
    | error code => exact say_bind_iff.2 ⟨[], rfl, .done _⟩

theorem loadPolicy_runs_iff {result : Except Failure Policy}
    : Runs loadPolicy.run events result ↔ Loads events result := by
  rw [loadPolicy, openSpace, call_bind_iff Runs.request_iff]
  constructor
  · rintro (⟨code, rfl, rfl⟩ | ⟨⟨⟩, rest, rfl, ran⟩)
    · exact .closed code
    obtain ⟨first, rest, read, rfl, reads, ran⟩ := sure_bind_iff.1 ran
    obtain ⟨answer, rfl, rfl⟩ := readPolicy_runs_iff.1 reads
    cases judged : policyIn answer with
    | ok policy =>
      rw [judged] at ran
      obtain ⟨rest, rfl, last⟩ := say_bind_iff.1 ran
      obtain ⟨rfl, rfl⟩ := Runs.done_iff.1 last
      exact .found judged
    | error failure =>
      rw [judged] at ran
      obtain ⟨rest, rfl, stores⟩ := say_bind_iff.1 ran
      obtain ⟨saved, rfl, rfl⟩ := storeDefault_runs_iff.1 stores
      exact .replaced judged saved
  · intro loads
    cases loads with
    | closed code => exact .inl ⟨code, rfl, rfl⟩
    | found usable =>
      have reads := readPolicy_runs_iff.2 ⟨_, rfl, usable.symm⟩
      refine .inr ⟨(), _, rfl, sure_bind_iff.2 ⟨[_], _, _, rfl, reads, ?_⟩⟩
      exact say_bind_iff.2 ⟨[], rfl, .done _⟩
    | replaced unusable saved =>
      have reads := readPolicy_runs_iff.2 ⟨_, rfl, unusable.symm⟩
      refine .inr ⟨(), _, rfl, sure_bind_iff.2 ⟨[_], _, _, rfl, reads, ?_⟩⟩
      refine say_bind_iff.2 ⟨_, rfl, ?_⟩
      exact storeDefault_runs_iff.2 ⟨saved, rfl, rfl⟩

-----------------------------------------------------------------------------
-- What is loaded

/-- A policy is stored that can be read and used. -/
def Holds (flash : Flash) (policy : Policy) : Prop :=
  ∃ bytes, flash ownSpace policyKey = some bytes ∧ bytes.length ≤ policyRoom
    ∧ Policy.ofJson bytes = .ok policy

/-- Where nothing fails, there is a load, and every load gives this policy and changes nothing. -/
def Settled (flash : Flash) (policy : Policy) : Prop :=
  (∃ events, Runs loadPolicy.run events (.ok policy) ∧ flash.TellsAll events
    ∧ ∀ e ∈ events, ¬ Fails e)
  ∧ ∀ events result, Runs loadPolicy.run events result → flash.TellsAll events
    → (∀ e ∈ events, ¬ Fails e) → result = .ok policy ∧ events.filter isChange = []

theorem policyIn_eq_ok_iff {answer : Except Code (Option (List UInt8))}
    : policyIn answer = .ok policy
      ↔ ∃ bytes, answer = .ok (some bytes) ∧ Policy.ofJson bytes = .ok policy := by
  unfold policyIn
  rcases answer with code | _ | bytes
  · simp
  · simp
  · cases judged : Policy.ofJson bytes with
    | ok policy => simp [judged]
    | error rejection => cases rejection <;> simp [judged]

/-- What is read and used is what the flash holds. -/
theorem holds_of_policyIn {answer : Except Code (Option (List UInt8))}
    (tells : flash.Tells (reading answer)) (usable : policyIn answer = .ok policy)
    : Holds flash policy := by
  obtain ⟨bytes, rfl, judged⟩ := policyIn_eq_ok_iff.1 usable
  exact ⟨bytes, tells.1.symm, tells.2 bytes rfl, judged⟩

/-- A policy that the flash holds is used unless it cannot be read. -/
theorem policyIn_of_holds {content : Option (List UInt8)}
    (tells : flash.Tells (reading (.ok content))) (holds : Holds flash policy)
    : policyIn (.ok content) = .ok policy := by
  obtain ⟨bytes, there, -, judged⟩ := holds
  exact policyIn_eq_ok_iff.2 ⟨bytes, congrArg _ (tells.1.trans there), judged⟩

theorem Holds.sound (holds : Holds flash policy) : policy.Sound := by
  obtain ⟨bytes, -, -, judged⟩ := holds
  exact Policy.sound_of_ofJson judged

/-- A policy that is stored is held. -/
theorem holds_set (sound : policy.Sound)
    : Holds (flash.set ownSpace policyKey (some (toBytes policy.toJson))) policy := by
  refine ⟨_, Flash.set_self, Policy.length_toJson policy, ?_⟩
  rw [Policy.ofJson_toJson, Policy.judged_of_sound sound]

/-- A policy that the flash holds is the one that is loaded. -/
theorem Holds.settled (holds : Holds flash policy) : Settled flash policy := by
  constructor
  · obtain ⟨bytes, there, fits, judged⟩ := holds
    have usable := policyIn_eq_ok_iff.2 ⟨bytes, rfl, judged⟩
    refine ⟨_, loadPolicy_runs_iff.2 (.found usable), ⟨trivial, ⟨there.symm, ?_⟩, trivial, trivial⟩,
      ?_⟩
    · rintro _ ⟨⟩
      exact fits
    · simp [opened, reading, said, Fails]
  · intro events result ran tells unfailed
    cases loadPolicy_runs_iff.1 ran with
    | closed code => exact absurd trivial (unfailed _ (.head _))
    | @found answer found usable =>
      obtain ⟨-, told, -⟩ := tells
      obtain ⟨bytes, rfl, -⟩ := policyIn_eq_ok_iff.1 usable
      exact ⟨usable.symm.trans (policyIn_of_holds told holds), rfl⟩
    | @replaced answer failure unusable saved =>
      obtain ⟨-, told, -⟩ := tells
      cases answer with
      | error code => exact absurd trivial (unfailed _ (.tail _ (.head _)))
      | ok content =>
        rw [policyIn_of_holds told holds] at unusable
        cases unusable

/-- What becomes of the flash when the default policy is stored, or cannot be. -/
def kept (flash : Flash) : Except Code Unit → Flash
  | .ok _ => flash.set ownSpace policyKey (some (toBytes ({} : Policy).toJson))
  | .error _ => flash

theorem kept_elsewhere {saved : Except Code Unit} {space key : String}
    (other : ¬ (space = ownSpace ∧ key = policyKey))
    : kept flash saved space key = flash space key := by
  cases saved with
  | ok => exact if_neg other
  | error code => rfl

/-- If the store can be opened, a load finds the policy that is held, or replaces whatever is there
with the default one.
-/
theorem Loads.outcome {result : Except Failure Policy} (loads : Loads events result)
    (tells : flash.TellsAll events)
    (opens : ∀ code, ⟨.call (.openStore ownSpace), .error code⟩ ∉ events)
    : (∃ policy, result = .ok policy ∧ Holds flash policy ∧ (∀ code, reading (.error code) ∉ events)
        ∧ events.filter isChange = [] ∧ flash.afterAll events = flash)
      ∨ result = .ok {} ∧ (∀ held, Holds flash held → ∃ code, reading (.error code) ∈ events)
        ∧ ∃ saved, events.filter isChange = [writing {} saved]
          ∧ flash.afterAll events = kept flash saved := by
  cases loads with
  | closed code => exact absurd (.head _) (opens code)
  | @found answer policy usable =>
    obtain ⟨-, told, -⟩ := tells
    refine .inl ⟨policy, rfl, holds_of_policyIn told usable, ?_, rfl, rfl⟩
    obtain ⟨bytes, rfl, -⟩ := policyIn_eq_ok_iff.1 usable
    simp [opened, reading, said]
  | @replaced answer failure unusable saved =>
    obtain ⟨-, told, -⟩ := tells
    refine .inr ⟨rfl, ?_, saved, ?_⟩
    · intro held holds
      cases answer with
      | error code => exact ⟨code, .tail _ (.head _)⟩
      | ok content =>
        rw [policyIn_of_holds told holds] at unusable
        cases unusable
    · cases saved <;> exact ⟨rfl, rfl⟩

-----------------------------------------------------------------------------
-- Booting

/-- The policy is loaded unless the store cannot be opened, and then it is sound. -/
theorem failsByCode_loadPolicy : FailsByCode loadPolicy := by
  intro events failure ran
  generalize same : Except.error failure = result at ran
  cases loadPolicy_runs_iff.1 ran with
  | closed code => exact ⟨code, Except.error.inj same⟩
  | found | replaced => cases same

theorem sound_of_loadPolicy (ran : Runs loadPolicy.run events (.ok policy)) : policy.Sound := by
  cases loadPolicy_runs_iff.1 ran with
  | found usable =>
    obtain ⟨bytes, -, judged⟩ := policyIn_eq_ok_iff.1 usable
    exact Policy.sound_of_ofJson judged
  | replaced => exact Policy.sound_default

/-- A boot fails only with a code of the platform, because no policy that it loads is flawed. -/
theorem failsByCode_boot (resetReason : Int) : FailsByCode (boot resetReason) := by
  have opens (space : String) : FailsByCode (openSpace space) := .trying _
  have starts (job : Job) : FailsByCode (startTask job) := .bind (.sure _) fun _ _ _ => .pure ()
  refine .bind (.sure _) fun _ _ _ => ?_
  refine .bind (.sure _) fun _ _ _ => ?_
  refine .bind (.trying _) fun _ _ _ => ?_
  refine .bind (.trying _) fun _ _ _ => ?_
  refine .bind (.trying _) fun _ _ _ => ?_
  refine .bind failsByCode_loadPolicy fun _ policy loaded => ?_
  have lasts : FailsByCode (do
      Pins.start
      Radio.start
      openSpace settingsSpace
      let backend ← sure (Provision.Backend.load lookUp)
      sure (Server.announce backend)
      startTask (.cycle true ⟨policy, true⟩ backend {})) := by
    have pins : FailsByCode Pins.start :=
      .bind (.trying _) fun _ _ _ => .bind (.trying _) fun _ _ _ =>
        .bind (.trying _) fun _ _ _ => .trying _
    have radio : FailsByCode Radio.start :=
      .bind (.trying _) fun _ _ _ => .bind (.trying _) fun _ _ _ =>
        .bind (.trying _) fun _ _ _ => .bind (.trying _) fun _ _ _ => .sure _
    refine .bind pins fun _ _ _ => ?_
    refine .bind radio fun _ _ _ => ?_
    refine .bind (opens _) fun _ _ _ => ?_
    refine .bind (.sure _) fun _ _ _ => ?_
    exact .bind (.sure _) fun _ _ _ => starts _
  dsimp only
  rw [show policy.flaw? = none from sound_of_loadPolicy loaded]
  refine .bind (opens _) fun _ _ _ => ?_
  refine .bind (.sure _) fun _ _ _ => ?_
  refine .bind (.sure _) fun _ _ _ => ?_
  refine .bind (.sure _) fun _ _ _ => ?_
  refine .bind (opens _) fun _ _ _ => ?_
  refine .bind (starts _) fun _ _ _ => ?_
  cases policy.canary with
  | true => exact .bind (starts _) fun _ _ _ => lasts
  | false => exact lasts

-----------------------------------------------------------------------------
-- Healing

/-- A load from a store that can be opened gives a sound policy, whatever is stored and whichever
calls fail. It gives the policy that is held and changes nothing, or else it tries once to store the
default policy, changes nothing else, and gives that one. Unless this fails, a load without failures
gives the same policy again and changes nothing. There is such a load for everything that reading
and writing can be answered. No boot fails because of its policy.
-/
theorem loadPolicy_heals
    : (∀ (flash : Flash) events result, Runs loadPolicy.run events result → flash.TellsAll events
        → (∀ code, ⟨.call (.openStore ownSpace), .error code⟩ ∉ events)
        → ∃ policy, result = .ok policy ∧ policy.Sound
          ∧ (Holds flash policy ∧ (∀ code, reading (.error code) ∉ events)
                ∧ events.filter isChange = []
              ∨ policy = {} ∧ (∀ held, Holds flash held → ∃ code, reading (.error code) ∈ events)
                ∧ ∃ saved, events.filter isChange = [writing {} saved])
          ∧ (∀ space key, ¬ (space = ownSpace ∧ key = policyKey)
            → flash.afterAll events space key = flash space key)
          ∧ ((∀ code, writing {} (.error code) ∉ events)
            → Settled (flash.afterAll events) policy))
      ∧ (∀ (flash : Flash) answer saved, flash.Tells (reading answer)
        → ∃ events policy, Runs loadPolicy.run events (.ok policy) ∧ flash.TellsAll events
          ∧ (∀ code, ⟨.call (.openStore ownSpace), .error code⟩ ∉ events)
          ∧ reading answer ∈ events ∧ ∀ other, writing {} other ∈ events → other = saved)
      ∧ ∀ resetReason events failure, Runs (boot resetReason).run events (.error failure)
        → ∃ code, failure = .platform code := by
  refine ⟨?_, ?_, failsByCode_boot⟩
  · intro flash events result ran tells opens
    rcases (loadPolicy_runs_iff.1 ran).outcome tells opens with
      ⟨policy, rfl, holds, readable, unchanged, same⟩ | ⟨rfl, unheld, saved, changed, after⟩
    · refine ⟨policy, rfl, holds.sound, .inl ⟨holds, readable, unchanged⟩, ?_, ?_⟩
      · intro space key other
        rw [same]
      · intro unfailed
        rw [same]
        exact holds.settled
    · refine ⟨{}, rfl, Policy.sound_default, .inr ⟨rfl, unheld, saved, changed⟩, ?_, ?_⟩
      · intro space key other
        rw [after, kept_elsewhere other]
      · intro unfailed
        have wrote : writing {} saved ∈ events :=
          List.mem_of_mem_filter (changed ▸ List.mem_singleton_self _)
        rw [after]
        cases saved with
        | ok => exact (holds_set Policy.sound_default).settled
        | error code => exact absurd wrote (unfailed code)
  · intro flash answer saved tells
    cases judged : policyIn answer with
    | ok policy =>
      refine ⟨_, policy, loadPolicy_runs_iff.2 (.found judged), ⟨trivial, tells, trivial, trivial⟩,
        ?_, .tail _ (.head _), ?_⟩
      · simp [opened, reading, said]
      · simp [opened, reading, said, writing]
    | error failure =>
      refine ⟨_, {}, loadPolicy_runs_iff.2 (.replaced judged saved), ?_, ?_, .tail _ (.head _), ?_⟩
      · cases saved <;> exact ⟨trivial, tells, trivial, trivial, by trivial⟩
      · cases saved <;> simp [opened, reading, said, writing, complaint]
      · cases saved <;> simp [opened, reading, said, writing, complaint]

/-- A policy that cannot be read as one is replaced by the default, which is there again later. -/
theorem loadPolicy_heals_garbled
    : let flash : Flash := fun _ _ => some (toBytes "not a policy")
      ∃ events, Runs loadPolicy.run events (.ok {}) ∧ flash.TellsAll events
        ∧ events.filter isChange = [writing {} (.ok ())]
        ∧ Settled (flash.afterAll events) {} := by
  intro flash
  obtain ⟨heals, loads, -⟩ := loadPolicy_heals
  have short : (toBytes "not a policy").length ≤ policyRoom := by decide
  have fits : ∀ bytes ∈ some (toBytes "not a policy"), bytes.length ≤ policyRoom := by
    rintro _ ⟨⟩
    exact short
  obtain ⟨events, policy, ran, tells, opens, -, stores⟩ :=
    loads flash (.ok (some (toBytes "not a policy"))) (.ok ()) ⟨rfl, fits⟩
  obtain ⟨_, ⟨⟩, -, found | ⟨rfl, -, saved, changed⟩, -, again⟩ :=
    heals flash events _ ran tells opens
  · obtain ⟨⟨_, ⟨⟩, -, judged⟩, -⟩ := found
    have refused : ∃ e, Policy.ofJson (toBytes "not a policy") = .error e := ⟨_, rfl⟩
    obtain ⟨e, refused⟩ := refused
    rw [refused] at judged
    cases judged
  · have wrote : writing {} saved ∈ events :=
      List.mem_of_mem_filter (changed ▸ List.mem_singleton_self _)
    obtain rfl := stores saved wrote
    refine ⟨events, ran, tells, changed, again ?_⟩
    intro code failed
    cases stores _ failed

end Caretaker.Device.Store
