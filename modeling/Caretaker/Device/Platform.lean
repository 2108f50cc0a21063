import Caretaker.Cycle
import Caretaker.Device.Failure
import Caretaker.Log.Journal

/-!
The platform of a device: a store of texts that survives restarts, three pins, a radio, a client
for requests to servers and a second slot for firmware. Every call to it may fail.
-/

namespace Caretaker.Device

/-- How wide a word of a machine is. A device has words of 32 bits, and a computer on which a device
is tried out may have wider ones.
-/
inductive Width where
  | bits32
  | bits64
deriving Repr, DecidableEq

namespace Width

/-- How many values a word has. -/
def values : Width → Nat
  | .bits32 => UInt32.size
  | .bits64 => UInt64.size

theorem values_pos (width : Width) : 0 < width.values := by
  cases width <;> decide

end Width

/-- How a network is joined. -/
inductive Authentication where
  | none
  | wpa2Personal
deriving Repr, DecidableEq

/-- The name of a way to join a network. -/
def Authentication.name : Authentication → String
  | .none => "None"
  | .wpa2Personal => "WPA2Personal"

/-- The longest name of a network that the radio takes, in bytes. -/
def ssidLimit : Nat := 32

/-- The longest password that the radio takes, in bytes. -/
def passwordLimit : Nat := 64

/-- What the radio is told about a network. Longer texts do not fit. -/
structure Station where
  ssid : String
  password : String
  authentication : Authentication
  ssid_le : ssid.utf8ByteSize ≤ ssidLimit
  password_le : password.utf8ByteSize ≤ passwordLimit
deriving DecidableEq

/-- A call to the platform. -/
inductive Call where
  | takePeripherals
  | takeEventLoop
  | takeStore
  | openStore (space : String)
  /-- Read bytes for which there is so much room. -/
  | readBytes (space key : String) (room : Nat)
  /-- Read a text for which there is so much room, its final zero included. -/
  | readText (space key : String) (room : Nat)
  | write (space key : String) (text : String)
  | erase (space key : String)
  | usePin (pin : Nat)
  | setPin (pin : Nat) (level : Bool)
  | createRadio
  | wrapRadio
  | configureRadio (station : Station)
  | startRadio
  | connectRadio
  | awaitAddress
  | readAddress
  | isAssociated
  | isUp
  | connect (buffer millis : Nat)
  | get (url : String) (headers : List (String × String))
  | submit
  /-- Read a part of a response for which there is so much room. No more than `left` bytes of it
  are left, if that is known.
  -/
  | read (room : Nat) (left : Option Nat)
  | openSlot
  | beginUpdate
  | writeUpdate (bytes : List UInt8)
  | completeUpdate
  | abortUpdate
  /-- Let the console finish. -/
  | drain (millis : Nat)
  | reboot
deriving DecidableEq

/-- The beginning of a response: its status, and how many bytes of it there are at most. -/
structure Response where
  status : Nat
  length : Nat
deriving Repr, DecidableEq

/-- A part of a response, which is empty at its end. -/
structure Part (room : Nat) (left : Option Nat) where
  bytes : List UInt8
  le_room : bytes.length ≤ room
  le_left : ∀ n ∈ left, bytes.length ≤ n
deriving DecidableEq

/-- The answer to a call. Nothing follows a reboot. -/
@[reducible]
def Call.Answer : Call → Type
  | .readBytes .. => Except Code (Option (List UInt8))
  | .readText .. => Except Code (Option String)
  | .readAddress => Except Code String
  | .isAssociated => Except Code Bool
  | .isUp => Except Code Bool
  | .submit => Except Code Response
  | .read room left => Except Code (Part room left)
  | .drain _ => Unit
  | .reboot => Empty
  | _ => Except Code Unit

/-- The tasks of a device. All but the first begin with an announcement. -/
inductive Job where
  | main (resetReason : Int)
  /-- The first task once everything runs. -/
  | reporting
  | patrol (isNew : Bool) (policy : Policy)
  | canary (isNew : Bool) (policy : Policy)
  | cycle (isNew : Bool) (plan : Cycle.Plan) (backend : Provision.Backend) (state : Cycle)

/-- What the tasks ask. -/
inductive Request where
  | now
  | report (r : Report)
  | pause (millis : Nat)
  | registry
  | replace (registry : Liveness.Registry)
  | acquire
  | release
  | fork (job : Job)
  | call (c : Call)
  | takeBatches
  | exported
  /-- Give up. -/
  | abandon (failure : Failure)

/-- The answers to the tasks. -/
@[reducible]
def Answer : Request → Type
  | .now => Stamp
  | .report r => r.Answer
  | .registry => Liveness.Registry
  | .fork _ => Nat
  | .call c => c.Answer
  | .takeBatches => List (List Log.Entry)
  | .exported => String
  | .abandon _ => Empty
  | _ => Unit

/-- The surroundings of the tasks. -/
abbrev Platform : Signature :=
  ⟨Request, Answer⟩

/-- Make one request. -/
def ask (r : Request) : Program Platform (Answer r) :=
  Program.request (S := Platform) r

instance : Clock Platform where
  now := ask .now

instance : Reports Platform where
  report r := ask (.report r)

instance : Tasks Platform where
  pause millis := ask (.pause millis)
  registry := ask .registry
  replace registry := ask (.replace registry)
  acquire := ask .acquire
  release := ask .release

/-- Work on the device that may fail. -/
abbrev Attempted := ExceptT Failure (Program Platform)

namespace Attempted

variable {α : Type}

/-- Work that does not fail. -/
def sure (p : Program Platform α) : Attempted α :=
  ExceptT.lift p

/-- A call whose failure ends the work. -/
def trying (p : Program Platform (Except Code α)) : Attempted α :=
  ExceptT.mk do return (← p).mapError Failure.platform

end Attempted

end Caretaker.Device
