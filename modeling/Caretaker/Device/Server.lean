import Caretaker.Device.Platform
import Caretaker.Firmware

/-!
The server of releases. Its manifest describes the latest release; the image of a release goes
part by part into the free slot, which is completed only if all of it arrived.
-/

namespace Caretaker.Device.Server

open Attempted

/-- The origin of the log lines about the server. -/
def origin : String := "ota"

-----------------------------------------------------------------------------
-- The manifest

/-- The members of a manifest that a text has given so far. -/
structure Draft where
  version : Option String := none
  url : Option String := none
  size : Option (Option Nat) := none
deriving Repr, DecidableEq

open Json in
/-- The members of a manifest. The size need not be there, and it has to be a word. -/
def shape (width : Width) : Shape Draft where
  title := "struct ReleaseManifest"
  members := [
    ⟨"version", true, (·.version.isSome),
      fun d => return { d with version := some (← Reader.text) }⟩,
    ⟨"url", true, (·.url.isSome),
      fun d => return { d with url := some (← Reader.text) }⟩,
    ⟨"size", false, (·.size.isSome), fun d => do
      let size ← Reader.optional (Reader.amount (width.values - 1))
      return { d with size := some size }⟩]

/-- The release of a complete draft. -/
def Draft.complete (d : Draft) : Except Json.Error Release := do
  let some version := d.version | throw (.missing "version")
  let some url := d.url | throw (.missing "url")
  return ⟨version, url, d.size.getD none⟩

/-- The release that a manifest describes. -/
def releaseOfJson (width : Width) (text : List UInt8) : Except Json.Error Release :=
  Json.Reader.decode (do (← (shape width).read {}).complete) text

/-- The host of the server unless another one is stored. -/
def defaultHost : String := "ota.local"

/-- Where the manifest is. -/
def manifestUrl (backend : Provision.Backend) : String :=
  "http://" ++ backend.deviceHost.getD defaultHost ++ "/firmware/latest.json?current_version="
    ++ Firmware.version

/-- What goes with a request for the manifest. -/
def manifestHeaders (backend : Provision.Backend) : List (String × String) :=
  ("accept", "application/json") :: (backend.projectKey.map (Prod.mk "x-project-key")).toList

/-- The first thing said about the server, if it is not the default one. -/
def announce (backend : Provision.Backend) : Program Platform Unit :=
  match backend.deviceHost with
  | some host => say .info origin ("Using update backend override: " ++ host)
  | none => pure ()

/-- The longest manifest in bytes. -/
def manifestLimit : Nat := 2048

/-- The room for a part of a manifest and of an image. -/
def manifestRoom : Nat := 512

def imageRoom : Nat := 4096

/-- How long to wait for a manifest and for an image, in milliseconds. -/
def manifestPatience : Nat := 30 * 1000

def imagePatience : Nat := 120 * 1000

/-- Open a connection. -/
def connect (patience : Nat) : Attempted Unit :=
  trying (ask (.call (.connect 4096 patience)))

/-- Ask for a resource. Any status but success is a failure. -/
def request (purpose url : String) (headers : List (String × String)) : Attempted Response := do
  trying (ask (.call (.get url headers)))
  let response ← trying (ask (.call .submit))
  if response.status ≠ 200 then
    throw (.refused purpose response.status)
  return response

/-- Read the parts of a manifest behind those that have been read, up to its end. It is given up
as soon as it is too long, so this ends even if the response does not.
-/
def readManifest (sofar : List UInt8) : Attempted (List UInt8) := do
  let part ← trying (ask (.call (.read manifestRoom none)))
  if _ : part.bytes = [] then
    return sofar
  else if _ : manifestLimit < (sofar ++ part.bytes).length then
    throw (.manifestTooLong manifestLimit)
  else
    readManifest (sofar ++ part.bytes)
termination_by manifestLimit - sofar.length
decreasing_by
  have := List.length_pos_iff.2 ‹part.bytes ≠ []›
  simp only [List.length_append] at *
  omega

/-- Fetch the manifest. -/
def fetchManifest (backend : Provision.Backend) : Attempted (List UInt8) := do
  connect manifestPatience
  let _ ← request "fetch manifest" (manifestUrl backend) (manifestHeaders backend)
  readManifest []

/-- The code of a manifest that could not be fetched. -/
def fetchFailure : Int32 := -1

/-- The code of a manifest that could not be read. -/
def manifestFailure : Int32 := -2

/-- The code of an image that could not be installed. -/
def installFailure : Int32 := -3

/-- Look for a release other than the running firmware. -/
def check (width : Width) (backend : Provision.Backend) : Program Platform Finding := do
  match ← (fetchManifest backend).run with
  | .error failure =>
    say .error origin ("Update check failed: " ++ failure.text)
    return .failed fetchFailure
  | .ok body =>
    match releaseOfJson width body with
    | .error e =>
      say .error origin ("Invalid release manifest: " ++ (Failure.unreadable e).text)
      return .failed manifestFailure
    | .ok release =>
      if release.version = Firmware.version then
        say .info origin ("Already running latest version: " ++ Firmware.version)
        return .nothing
      else
        say .info origin ("New version available: " ++ release.version ++ " (current: "
          ++ Firmware.version ++ ")")
        return .found release

-----------------------------------------------------------------------------
-- The image

/-- Write the parts of an image of at most `left` more bytes into the slot, up to its end. Tells
how many bytes there were, those already written included. They are counted in a word, which begins
again at zero once it has taken all its values.
-/
def transfer (width : Width) (left total : Nat) : Attempted Nat := do
  let part ← trying (ask (.call (.read imageRoom (some left))))
  if _ : part.bytes = [] then
    return total
  else
    trying (ask (.call (.writeUpdate part.bytes)))
    transfer width (left - part.bytes.length) ((total + part.bytes.length) % width.values)
termination_by left
decreasing_by
  have := List.length_pos_iff.2 ‹part.bytes ≠ []›
  have := part.le_left left rfl
  omega

/-- An image has to be as long as announced. -/
def checkSize (announced : Option Nat) (total : Nat) : Attempted Unit :=
  match announced with
  | some expected => if expected = total then pure () else throw (.wrongSize expected total)
  | none => pure ()

/-- Write an image into the slot and check its size. -/
def transferAll (width : Width) (announced : Option Nat) (length : Nat) : Attempted Nat := do
  let total ← transfer width length 0
  checkSize announced total
  return total

/-- Leave the slot as it was. -/
def abort : Program Platform Unit := do
  match ← ask (.call .abortUpdate) with
  | .ok _ => pure ()
  | .error code => say .warn origin ("Failed to abort OTA update: " ++ code.describe)

/-- Bring the image of a release into the slot. Tells how many bytes were counted. -/
def download (width : Width) (release : Release) : Attempted Nat := do
  connect imagePatience
  let response ← request "download firmware" release.url []
  trying (ask (.call .openSlot))
  trying (ask (.call .beginUpdate))
  match ← sure (transferAll width release.size response.length).run with
  | .ok total =>
    trying (ask (.call .completeUpdate))
    return total
  | .error failure =>
    sure abort
    throw failure

/-- Install a release. -/
def install (width : Width) (release : Release) : Program Platform Installation := do
  match ← (download width release).run with
  | .ok total =>
    say .info origin ("Firmware " ++ release.version ++ " staged (" ++ toString total ++ " bytes)")
    return .staged
  | .error failure =>
    say .error origin ("Firmware download failed: " ++ failure.text)
    return .failed installFailure

end Caretaker.Device.Server
