import Caretaker.Device.Server
import Caretaker.Proofs.Device.Attempts

/-!
How a look for a release goes: everything that can be asked and answered in it, with what comes of
it. A resource is asked for, its parts are gathered, and what they hold decides.
-/

namespace Caretaker.Device.Server

open Attempted

variable {width : Width} {events : List (Event Platform)} {sofar : List UInt8}
  {result : Except Failure (List UInt8)}

-----------------------------------------------------------------------------
-- Reading a manifest

/-- A part of a manifest is read, or it cannot be read. -/
def reading (answer : Except Code (Part manifestRoom none)) : Event Platform :=
  ⟨.call (.read manifestRoom none), answer⟩

/-- How the parts of a manifest are gathered behind those that have been read: up to its end, to the
first part that cannot be read, or to the part that makes it too long.
-/
inductive Gathers
    : List UInt8 → List (Event Platform) → Except Failure (List UInt8) → Prop where
  | unread {sofar : List UInt8} (code : Code)
      : Gathers sofar [reading (.error code)] (.error (.platform code))
  | ended {sofar : List UInt8} (part : Part manifestRoom none) (last : part.bytes = [])
      : Gathers sofar [reading (.ok part)] (.ok sofar)
  | tooLong {sofar : List UInt8} (part : Part manifestRoom none) (nonempty : part.bytes ≠ [])
      (long : manifestLimit < (sofar ++ part.bytes).length)
      : Gathers sofar [reading (.ok part)] (.error (.manifestTooLong manifestLimit))
  | more {sofar : List UInt8} {events : List (Event Platform)}
      {result : Except Failure (List UInt8)} (part : Part manifestRoom none)
      (nonempty : part.bytes ≠ []) (fits : (sofar ++ part.bytes).length ≤ manifestLimit)
      (rest : Gathers (sofar ++ part.bytes) events result)
      : Gathers sofar (reading (.ok part) :: events) result

/-- A manifest is read as its parts are gathered, by induction over the room that is left for them.
-/
theorem readManifest_iff
    : Runs (readManifest sofar).run events result ↔ Gathers sofar events result := by
  induction sofar using readManifest.induct generalizing events with
  | case1 sofar ih =>
    rw [readManifest, call_bind_iff Runs.request_iff]
    constructor
    · rintro (⟨code, rfl, rfl⟩ | ⟨part, rest, rfl, ran⟩)
      · exact .unread code
      by_cases last : part.bytes = []
      · rw [dif_pos last] at ran
        obtain ⟨rfl, rfl⟩ := Runs.done_iff.1 ran
        exact .ended part last
      rw [dif_neg last] at ran
      by_cases long : manifestLimit < (sofar ++ part.bytes).length
      · rw [dif_pos long] at ran
        obtain ⟨rfl, rfl⟩ := Runs.done_iff.1 ran
        exact .tooLong part last long
      · rw [dif_neg long] at ran
        exact .more part last (Nat.le_of_not_lt long) ((ih part last long).1 ran)
    · intro gathers
      cases gathers with
      | unread code => exact .inl ⟨code, rfl, rfl⟩
      | ended part last =>
        refine .inr ⟨part, [], rfl, ?_⟩
        rw [dif_pos last]
        exact .done _
      | tooLong part nonempty long =>
        refine .inr ⟨part, [], rfl, ?_⟩
        rw [dif_neg nonempty, dif_pos long]
        exact .done _
      | more part nonempty fits rest =>
        refine .inr ⟨part, _, rfl, ?_⟩
        have short := Nat.not_lt.2 fits
        rw [dif_neg nonempty, dif_neg short]
        exact (ih part nonempty short).2 rest

-----------------------------------------------------------------------------
-- Fetching a manifest

/-- How a resource is asked for. Only a response with a status of success is taken. -/
inductive Asking (purpose url : String) (headers : List (String × String))
    : List (Event Platform) → Except Failure Response → Prop where
  | unasked (code : Code)
      : Asking purpose url headers [⟨.call (.get url headers), .error code⟩]
          (.error (.platform code))
  | unanswered (code : Code)
      : Asking purpose url headers
          [⟨.call (.get url headers), .ok ()⟩, ⟨.call .submit, .error code⟩]
          (.error (.platform code))
  | refused (response : Response) (status : response.status ≠ 200)
      : Asking purpose url headers
          [⟨.call (.get url headers), .ok ()⟩, ⟨.call .submit, .ok response⟩]
          (.error (.refused purpose response.status))
  | answered (response : Response) (status : response.status = 200)
      : Asking purpose url headers
          [⟨.call (.get url headers), .ok ()⟩, ⟨.call .submit, .ok response⟩]
          (.ok response)

theorem request_iff {purpose url : String} {headers : List (String × String)}
    {answer : Except Failure Response}
    : Runs (request purpose url headers).run events answer
      ↔ Asking purpose url headers events answer := by
  rw [request, call_bind_iff Runs.request_iff]
  constructor
  · rintro (⟨code, rfl, rfl⟩ | ⟨⟨⟩, rest, rfl, ran⟩)
    · exact .unasked code
    rcases (call_bind_iff Runs.request_iff).1 ran with
      ⟨code, rfl, rfl⟩ | ⟨response, rest, rfl, screened⟩
    · exact .unanswered code
    by_cases status : response.status = 200
    · rw [if_neg (not_not_intro status)] at screened
      obtain ⟨rfl, rfl⟩ := Runs.done_iff.1 screened
      exact .answered response status
    · rw [if_pos status] at screened
      obtain ⟨rfl, rfl⟩ := Runs.done_iff.1 screened
      exact .refused response status
  · intro asking
    cases asking with
    | unasked code => exact .inl ⟨code, rfl, rfl⟩
    | unanswered code =>
      exact .inr ⟨(), _, rfl, (call_bind_iff Runs.request_iff).2 (.inl ⟨code, rfl, rfl⟩)⟩
    | refused response status =>
      refine .inr ⟨(), _, rfl, (call_bind_iff Runs.request_iff).2 (.inr ⟨response, [], rfl, ?_⟩)⟩
      rw [if_pos status]
      exact .done _
    | answered response status =>
      refine .inr ⟨(), _, rfl, (call_bind_iff Runs.request_iff).2 (.inr ⟨response, [], rfl, ?_⟩)⟩
      rw [if_neg (not_not_intro status)]
      exact .done _

/-- How a manifest is fetched, with what comes of it. -/
inductive Fetching (backend : Provision.Backend)
    : List (Event Platform) → Except Failure (List UInt8) → Prop where
  | unconnected (code : Code)
      : Fetching backend [⟨.call (.connect 4096 manifestPatience), .error code⟩]
          (.error (.platform code))
  | refused {asking : List (Event Platform)} {failure : Failure}
      (asks : Asking "fetch manifest" (manifestUrl backend) (manifestHeaders backend) asking
        (.error failure))
      : Fetching backend (⟨.call (.connect 4096 manifestPatience), .ok ()⟩ :: asking)
          (.error failure)
  | answered {asking reading : List (Event Platform)} {response : Response}
      {result : Except Failure (List UInt8)}
      (asks : Asking "fetch manifest" (manifestUrl backend) (manifestHeaders backend) asking
        (.ok response))
      (gathers : Gathers [] reading result)
      : Fetching backend (⟨.call (.connect 4096 manifestPatience), .ok ()⟩ :: asking ++ reading)
          result

theorem fetchManifest_iff {backend : Provision.Backend}
    : Runs (fetchManifest backend).run events result ↔ Fetching backend events result := by
  rw [fetchManifest, connect, call_bind_iff Runs.request_iff]
  constructor
  · rintro (⟨code, rfl, rfl⟩ | ⟨⟨⟩, rest, rfl, ran⟩)
    · exact .unconnected code
    rcases Runs.except_bind_iff.1 ran with
      ⟨failure, rfl, failed⟩ | ⟨asking, reading, response, rfl, asked, read⟩
    · exact .refused (request_iff.1 failed)
    · exact .answered (request_iff.1 asked) (readManifest_iff.1 read)
  · intro fetching
    cases fetching with
    | unconnected code => exact .inl ⟨code, rfl, rfl⟩
    | refused asks =>
      exact .inr ⟨(), _, rfl, Runs.except_bind_iff.2 (.inl ⟨_, rfl, request_iff.2 asks⟩)⟩
    | answered asks gathers =>
      have asked := request_iff.2 asks
      have read := readManifest_iff.2 gathers
      exact .inr ⟨(), _, rfl, Runs.except_bind_iff.2 (.inr ⟨_, _, _, rfl, asked, read⟩)⟩

-----------------------------------------------------------------------------
-- Looking for a release

/-- How a look ends, by what comes of fetching the manifest. -/
def verdict (width : Width) : Except Failure (List UInt8) → Finding
  | .error _ => .failed fetchFailure
  | .ok body =>
    match releaseOfJson width body with
    | .error _ => .failed manifestFailure
    | .ok release => if release.version = Firmware.version then .nothing else .found release

/-- A release that is found is described by the manifest. -/
theorem described_of_verdict {release : Release} (found : verdict width result = .found release)
    : ∃ manifest, result = .ok manifest ∧ releaseOfJson width manifest = .ok release := by
  rcases result with failure | manifest
  · cases found
  refine ⟨manifest, rfl, ?_⟩
  unfold verdict at found
  cases described : releaseOfJson width manifest with
  | error e => simp [described] at found
  | ok other =>
    simp only [described] at found
    split at found <;> cases found
    rfl

/-- What is said about a look, by what comes of fetching the manifest. -/
def remark (width : Width) : Except Failure (List UInt8) → Log.Level × String
  | .error failure => (.error, "Update check failed: " ++ failure.text)
  | .ok body =>
    match releaseOfJson width body with
    | .error e => (.error, "Invalid release manifest: " ++ (Failure.unreadable e).text)
    | .ok release =>
      if release.version = Firmware.version then
        (.info, "Already running latest version: " ++ Firmware.version)
      else
        (.info, "New version available: " ++ release.version ++ " (current: "
          ++ Firmware.version ++ ")")

theorem check_eq (width : Width) (backend : Provision.Backend)
    : check width backend = do
        let result ← (fetchManifest backend).run
        say (remark width result).1 origin (remark width result).2
        return verdict width result := by
  unfold check
  refine bind_congr fun result => ?_
  cases result with
  | error failure => rfl
  | ok body =>
    simp only [remark, verdict]
    cases releaseOfJson width body with
    | error e => rfl
    | ok release => simp only; split <;> rfl

/-- A look fetches the manifest, says one thing about it, and ends accordingly. -/
theorem check_runs_iff {backend : Provision.Backend} {finding : Finding}
    : Runs (check width backend) events finding
      ↔ ∃ fetched result, Fetching backend fetched result ∧ finding = verdict width result
        ∧ events = fetched ++ [said (remark width result).1 origin (remark width result).2] := by
  rw [check_eq, Runs.bind_iff]
  constructor
  · rintro ⟨fetched, rest, result, rfl, ran, told⟩
    obtain ⟨said, rfl⟩ := Runs.then_done_iff.1 told
    obtain rfl := Runs.request_iff.1 said
    exact ⟨fetched, result, fetchManifest_iff.1 ran, rfl, rfl⟩
  · rintro ⟨fetched, result, fetching, rfl, rfl⟩
    refine ⟨fetched, _, result, rfl, fetchManifest_iff.2 fetching, Runs.then_done_iff.2 ⟨?_, rfl⟩⟩
    exact Runs.request_iff.2 rfl

end Caretaker.Device.Server
