import Caretaker.Device.World
import Caretaker.Schedule
import Caretaker.Text.Utf8

/-!
A trial runs a whole device on a scripted platform, in virtual time. Every call is observed, then
fails if the script says so, and is done otherwise. A trial tells all that was observed, in order.
-/

namespace Caretaker.Device

namespace World

/-- What comes of a call that fails. Joining takes its time all the same. -/
def refuse (w : World) (code : Code) : (c : Call) → Reaction c.Answer Job × World
  | .connectRadio => (.later w.setting.joinMillis (.error code), { w with isJoined := false })
  | .drain millis => (.later millis (), w)
  | .reboot => (.exit 0, w)
  | .takePeripherals | .takeEventLoop | .takeStore | .openStore _ | .readBytes .. | .readText ..
  | .write .. | .erase .. | .usePin _ | .setPin .. | .createRadio | .wrapRadio
  | .configureRadio _ | .startRadio | .awaitAddress | .readAddress | .isAssociated | .isUp
  | .connect .. | .get .. | .submit | .read .. | .openSlot | .beginUpdate | .writeUpdate _
  | .completeUpdate | .abortUpdate =>
    (.answer (.error code), w)

/-- What comes of a call that does not fail. What does not fit where it should go is not given, and
bytes that are no text are read as an empty one.
-/
def accept (w : World) : (c : Call) → Reaction c.Answer Job × World
  | .readBytes space key room =>
    match w.contents.find? space key with
    | none => (.answer (.ok none), w)
    | some bytes =>
      (.answer (if room < bytes.length then .error .invalidLength else .ok (some bytes)), w)
  | .readText space key room =>
    match w.contents.find? space key with
    | none => (.answer (.ok none), w)
    | some bytes =>
      if room < bytes.length + 1 then
        (.answer (.error .invalidLength), w)
      else
        (.answer (.ok (some ((Text.ofBytes? bytes).getD ""))), w)
  | .write space key text =>
    (.answer (.ok ()), { w with contents := w.contents.insert space key (Text.toBytes text) })
  | .erase space key => (.answer (.ok ()), { w with contents := w.contents.erase space key })
  | .connectRadio => (.later w.setting.joinMillis (.ok ()), { w with isJoined := false })
  | .awaitAddress => (.answer (.ok ()), { w with isJoined := true })
  | .readAddress => (.answer (.ok w.setting.address), w)
  | .isAssociated => (.answer (.ok w.isAssociated), w)
  | .isUp => (.answer (.ok w.isUp), w)
  | .submit =>
    match w.replies with
    | [] => (.answer (.error .unreachable), w)
    | reply :: replies =>
      (.later reply.delayMillis (.ok ⟨reply.status, reply.body.length⟩),
        { w with replies := replies, reply := reply, left := reply.body })
  | .read room left =>
    let part := w.nextPart room left
    (.later w.reply.partMillis (.ok part), { w with left := w.left.drop part.bytes.length })
  | .drain millis => (.later millis (), w)
  | .reboot => (.exit 0, w)
  | .takePeripherals | .takeEventLoop | .takeStore | .openStore _ | .usePin _ | .setPin ..
  | .createRadio | .wrapRadio | .configureRadio _ | .startRadio | .connect .. | .get ..
  | .openSlot | .beginUpdate | .writeUpdate _ | .completeUpdate | .abortUpdate =>
    (.answer (.ok ()), w)

/-- What is observed of a call. -/
def observation (w : World) (c : Call) (isRefused : Bool) : Observation :=
  match c with
  | .isAssociated => .said c (if isRefused then none else some w.isAssociated)
  | .isUp => .said c (if isRefused then none else some w.isUp)
  | .read room left => .gave room (w.nextPart room left).bytes.length
  | c => .called c

/-- What comes of a call. -/
def meet (w : World) (c : Call) : Reaction c.Answer Job × World :=
  let failure := w.failure? c.name
  let (reaction, after) := match failure with
    | some code => w.refuse code c
    | none => w.accept c
  (reaction, (after.observe (w.observation c failure.isSome)).recount c.name)

end World

namespace Trial

/-- What comes of a request at a time. -/
def react (time : Nat) (r : Request) (w : World) : Reaction (Answer r) Job × World :=
  match r with
  | .now => (.answer (Stamp.ofMillis time), w)
  | .report r =>
    let (a, w) := w.file time r
    (.answer a, w)
  | .pause millis => (.later millis (), w)
  | .registry => (.answer w.registry, w)
  | .replace registry => (.answer (), { w with registry := registry })
  | .acquire => (.acquire (), w)
  | .release => (.release (), w)
  | .fork job => (.fork job id, w)
  | .call c => w.meet c
  | .takeBatches =>
    let (batches, evidence) := w.evidence.takeBatches
    (.answer batches, { w with evidence := evidence })
  | .exported => (.answer w.evidence.diagnostics.toJson, w)
  | .abandon failure => (.exit 1, w.observe (.abandoned failure))

/-- How a trial went. -/
structure Outcome where
  ending : Schedule.Ending
  /-- What was observed after the banner. -/
  observed : List Observation

/-- The most tasks that a device has. -/
def tasks : Nat := 4

/-- Boot a device and let it run up to a time limit in milliseconds. A trial takes place on a
computer, whose words are wider than those of a device.
-/
def run (limit : Nat) (resetReason : Int) (w : World) (width : Width := .bits64) : Outcome :=
  let (ending, state) := Schedule.start ⟨job width, react⟩ limit tasks (.main resetReason) w
  ⟨ending, state.world.observed.reverse⟩

end Trial

end Caretaker.Device
