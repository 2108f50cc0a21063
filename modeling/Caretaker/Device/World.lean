import Caretaker.Device
import Caretaker.Evidence

/-!
A scripted platform: which calls fail, what the store holds and what the servers answer. Its state
is plain data, with everything that has been observed of it.
-/

namespace Caretaker.Device

/-- The name under which a call stands in scripts and listings. -/
def Call.name : Call → String
  | .takePeripherals => "peripherals"
  | .takeEventLoop => "event_loop"
  | .takeStore => "nvs_take"
  | .openStore space => "nvs_open:" ++ space
  | .readBytes _ key _ => "nvs_get:" ++ key
  | .readText _ key _ => "nvs_get:" ++ key
  | .write _ key _ => "nvs_set:" ++ key
  | .erase _ key => "nvs_remove:" ++ key
  | .usePin pin => "gpio_output:" ++ toString pin
  | .setPin pin _ => "gpio_set:" ++ toString pin
  | .createRadio => "wifi_new"
  | .wrapRadio => "wifi_wrap"
  | .configureRadio _ => "wifi_set_configuration"
  | .startRadio => "wifi_start"
  | .connectRadio => "wifi_connect"
  | .awaitAddress => "wifi_wait_netif_up"
  | .readAddress => "wifi_ip_info"
  | .isAssociated => "wifi_is_connected"
  | .isUp => "wifi_is_up"
  | .connect .. => "http_new"
  | .get .. => "http_request"
  | .submit => "http_submit"
  | .read .. => "http_read"
  | .openSlot => "ota_new"
  | .beginUpdate => "ota_initiate"
  | .writeUpdate _ => "ota_write"
  | .completeUpdate => "ota_complete"
  | .abortUpdate => "ota_abort"
  | .drain _ => "delay_ms"
  | .reboot => "restart"

/-- How the calls of one name fail. -/
inductive Failing where
  | always (code : Int)
  /-- The codes of the first calls, zero for those that work. All later ones work. -/
  | inTurn (codes : List Int)
deriving Repr, DecidableEq

/-- The code with which the call after `earlier` others fails, if it does. -/
def Failing.code? (f : Failing) (earlier : Nat) : Option Code :=
  match f with
  | .always code => if code = 0 then none else some ⟨code⟩
  | .inTurn codes =>
    match codes[earlier]? with
    | some 0 => none
    | some code => some ⟨code⟩
    | none => none

/-- The answer of a server. -/
structure Reply where
  status : Nat := 200
  body : List UInt8 := []
  /-- How long the server takes to answer. -/
  delayMillis : Nat := 0
  /-- The most bytes that are given at once. -/
  portion : Option Nat := none
  /-- How long each part takes. -/
  partMillis : Nat := 0
deriving DecidableEq

/-- What the store holds: texts by key, by space. -/
abbrev Contents := List (String × List (String × List UInt8))

namespace Contents

/-- The stored bytes. -/
def find? (c : Contents) (space key : String) : Option (List UInt8) := do
  (← c.lookup space).lookup key

/-- The contents without a key. -/
def erase (c : Contents) (space key : String) : Contents :=
  c.map fun (name, texts) =>
    (name, if name = space then texts.filter (·.1 ≠ key) else texts)

/-- The contents with other bytes under a key. -/
def insert (c : Contents) (space key : String) (bytes : List UInt8) : Contents :=
  let texts := (c.lookup space).getD []
  (space, (key, bytes) :: texts.filter (·.1 ≠ key)) :: c.filter (·.1 ≠ space)

theorem lookup_cons {α : Type} (found name : String) (a : α) (entries : List (String × α))
    : ((found, a) :: entries).lookup name
      = if name = found then some a else entries.lookup name := by
  by_cases same : name = found
  · simp [same]
  · rw [List.lookup_cons, beq_false_of_ne same, if_neg same]

/-- Looking up a name where another one has been left out, by induction over the list. -/
theorem lookup_filter_ne {α : Type} (entries : List (String × α)) (left name : String)
    : (entries.filter (·.1 ≠ left)).lookup name
      = if name = left then none else entries.lookup name := by
  induction entries with
  | nil => simp
  | cons entry entries ih =>
    obtain ⟨found, a⟩ := entry
    by_cases out : found = left
    · rw [List.filter_cons_of_neg (by simp [out]), ih, lookup_cons, out]
      split <;> rfl
    · rw [List.filter_cons_of_pos (by simp [out]), lookup_cons, lookup_cons, ih]
      by_cases same : name = found
      · rw [if_pos same, if_pos same, if_neg (same ▸ out)]
      · rw [if_neg same, if_neg same]

/-- Looking up a name where every entry has been changed, by induction over the list. -/
theorem lookup_map {α : Type} (entries : List (String × α)) (change : String → α → α)
    (name : String)
    : (entries.map fun (found, a) => (found, change found a)).lookup name
      = (entries.lookup name).map (change name) := by
  induction entries with
  | nil => rfl
  | cons entry entries ih =>
    obtain ⟨found, a⟩ := entry
    rw [List.map_cons, lookup_cons, lookup_cons, ih]
    by_cases same : name = found
    · rw [if_pos same, if_pos same, same]
      rfl
    · rw [if_neg same, if_neg same]

/-- Erasing a key takes away its bytes and no others. -/
theorem find?_erase (c : Contents) (space key space' key' : String)
    : (c.erase space key).find? space' key'
      = if space' = space ∧ key' = key then none else c.find? space' key' := by
  unfold find? erase
  rw [lookup_map c fun name texts => if name = space then texts.filter (·.1 ≠ key) else texts]
  cases found : c.lookup space' with
  | none => simp
  | some texts =>
    by_cases same : space' = space
    · simp only [same, Option.map_some, if_pos, Option.bind_eq_bind, Option.bind_some,
        lookup_filter_ne, true_and]
    · simp [same]

/-- Inserting bytes under a key replaces those that were there and no others. -/
theorem find?_insert (c : Contents) (space key : String) (bytes : List UInt8)
    (space' key' : String)
    : (c.insert space key bytes).find? space' key'
      = if space' = space ∧ key' = key then some bytes else c.find? space' key' := by
  unfold find? insert
  dsimp only
  rw [lookup_cons, lookup_filter_ne]
  by_cases same : space' = space
  · subst same
    simp only [if_pos, Option.bind_eq_bind, Option.bind_some, lookup_cons, lookup_filter_ne,
      true_and]
    by_cases equal : key' = key
    · simp only [if_pos equal]
    · simp only [if_neg equal]
      cases c.lookup space' <;> rfl
  · simp [same]

end Contents

/-- Everything that a platform does by itself. -/
structure Setting where
  fails : List (String × Failing) := []
  /-- What the radio says about being part of a network, if it does not tell the truth. -/
  associated : Option (List Bool) := none
  /-- What the radio says about having an address, if it does not tell the truth. -/
  up : Option (List Bool) := none
  address : String := "192.168.1.50"
  /-- How long it takes to join a network. -/
  joinMillis : Nat := 0

/-- What can be observed from outside. -/
inductive Observation where
  | printed (uptime : Nat) (record : Log.Record)
  | called (call : Call)
  /-- The radio said something about itself, or failed. -/
  | said (call : Call) (answer : Option Bool)
  /-- So many bytes were given where there was so much room. -/
  | gave (room count : Nat)
  | abandoned (failure : Failure)

/-- The state of the platform. -/
structure World where
  setting : Setting
  contents : Contents := []
  /-- The answers of the servers still to come. -/
  replies : List Reply := []
  /-- The answer that is being read, and what is left of its body. -/
  reply : Reply := {}
  left : List UInt8 := []
  /-- Whether the radio is part of a network. -/
  isJoined : Bool := false
  /-- How often each call has been made. -/
  counts : List (String × Nat) := []
  registry : Liveness.Registry := { capacity := registryCapacity, timeout := 0 }
  evidence : Evidence := .empty (some .info) .journal
  /-- What has been observed, latest first. -/
  observed : List Observation := []

namespace World

/-- Something is observed. -/
def observe (w : World) (o : Observation) : World :=
  { w with observed := o :: w.observed }

/-- How often a call of this name has been made. -/
def countOf (w : World) (name : String) : Nat :=
  (w.counts.lookup name).getD 0

/-- One more call of this name. -/
def recount (w : World) (name : String) : World :=
  { w with counts := (name, w.countOf name + 1) :: w.counts.filter (·.1 ≠ name) }

/-- The code with which the next call of this name fails, if it does. -/
def failure? (w : World) (name : String) : Option Code := do
  (← w.setting.fails.lookup name).code? (w.countOf name)

/-- File a report at a time. -/
def file (w : World) (time : Nat) (r : Report) : r.Answer × World :=
  let filed := w.evidence.file time r
  let observed := filed.records.reverse.map (Observation.printed time) ++ w.observed
  (filed.answer, { w with evidence := filed.evidence, observed := observed })

/-- What the radio says when it is asked something that a script may answer, call by call and the
last answer over and over. Without a script it tells the truth.
-/
def saying (w : World) (name : String) (script : Option (List Bool)) : Bool :=
  match script with
  | none => w.isJoined
  | some answers => (answers[w.countOf name]? <|> answers.getLast?).getD w.isJoined

/-- What the radio says about being part of a network. -/
def isAssociated (w : World) : Bool :=
  w.saying Call.isAssociated.name w.setting.associated

/-- What the radio says about having an address. -/
def isUp (w : World) : Bool :=
  w.saying Call.isUp.name w.setting.up

/-- The part of a body that is given next. -/
def nextPart (w : World) (room : Nat) (left : Option Nat) : Part room left where
  bytes := w.left.take (min (min room (left.getD room)) (w.reply.portion.getD room))
  le_room := by simp only [List.length_take]; omega
  le_left := by
    rintro n rfl
    simp only [List.length_take, Option.getD_some]
    omega

end World

end Caretaker.Device
