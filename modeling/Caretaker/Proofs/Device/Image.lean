import Caretaker.Proofs.Device.Calls
import Caretaker.Proofs.Device.Fetching

/-!
How a manifest is fetched and an image gets into the free slot. The slot is completed only if every
part of the image has been read and written, and the bytes that were counted are those announced.
-/

namespace Caretaker.Device.Server

open Attempted

variable {α : Type} {width : Width} {events : List (Event Platform)}

-----------------------------------------------------------------------------
-- The manifest

/-- The parts of a manifest up to its end. -/
inductive Collected : List UInt8 → List (Event Platform) → Prop where
  | done (part : Part manifestRoom none) (ended : part.bytes = [])
      : Collected [] [⟨.call (.read manifestRoom none), .ok part⟩]
  | more {bytes : List UInt8} {events : List (Event Platform)} (part : Part manifestRoom none)
      (more : part.bytes ≠ []) (rest : Collected bytes events)
      : Collected (part.bytes ++ bytes) (⟨.call (.read manifestRoom none), .ok part⟩ :: events)

/-- How a manifest is fetched: from its place, with a status of success, and up to its end. -/
def Fetched (backend : Provision.Backend) (manifest : List UInt8) (events : List (Event Platform))
    : Prop :=
  ∃ length parts,
    events
      = [⟨.call (.connect 4096 manifestPatience), .ok ()⟩,
          ⟨.call (.get (manifestUrl backend) (manifestHeaders backend)), .ok ()⟩,
          ⟨.call .submit, .ok ⟨200, length⟩⟩]
        ++ parts
    ∧ Collected manifest parts

theorem connect_runs {patience : Nat} (h : Runs (connect patience).run events (.ok ()))
    : events = [⟨.call (.connect 4096 patience), .ok ()⟩] :=
  Runs.request_iff.1 (trying_ok_iff.1 h)

theorem Asking.events_eq {purpose url : String} {headers : List (String × String)}
    {response : Response} (asks : Asking purpose url headers events (.ok response))
    : events
        = [⟨.call (.get url headers), .ok ()⟩, ⟨.call .submit, .ok ⟨200, response.length⟩⟩] := by
  cases asks with
  | answered _ status => rw [← status]

/-- Whatever is gathered to the end is collected, by induction over the parts. -/
theorem Gathers.collected {sofar body : List UInt8} (gathers : Gathers sofar events (.ok body))
    : ∃ bytes, body = sofar ++ bytes ∧ Collected bytes events := by
  generalize same : Except.ok body = result at gathers
  induction gathers with
  | unread | tooLong => cases same
  | ended part last =>
    cases same
    exact ⟨[], (List.append_nil _).symm, .done part last⟩
  | more part nonempty _ _ ih =>
    obtain ⟨bytes, rfl, collected⟩ := ih same
    exact ⟨part.bytes ++ bytes, List.append_assoc .., .more part nonempty collected⟩

theorem Fetching.fetched {backend : Provision.Backend} {manifest : List UInt8}
    (fetching : Fetching backend events (.ok manifest))
    : Fetched backend manifest events := by
  cases fetching with
  | @answered _ _ response _ asks gathers =>
    obtain ⟨bytes, rfl, collected⟩ := gathers.collected
    obtain rfl := asks.events_eq
    exact ⟨response.length, _, rfl, collected⟩

/-- A look finds what the manifest describes. -/
theorem check_runs {backend : Provision.Backend} {release : Release}
    (h : Runs (check width backend) events (.found release))
    : ∃ manifest fetched line, events = fetched ++ [line] ∧ line.request.kind = .plain
      ∧ Fetched backend manifest fetched ∧ releaseOfJson width manifest = .ok release := by
  obtain ⟨fetched, result, fetching, isVerdict, rfl⟩ := check_runs_iff.1 h
  obtain ⟨manifest, rfl, described⟩ := described_of_verdict isVerdict.symm
  exact ⟨manifest, fetched, _, rfl, rfl, fetching.fetched, described⟩

theorem plain_connect (patience : Nat) : Plain (connect patience).run :=
  only_trying (plain_ask rfl)

theorem plain_request (purpose url : String) (headers : List (String × String))
    : Plain (request purpose url headers).run := by
  refine .except_bind (only_trying (plain_ask rfl)) fun _ => ?_
  refine .except_bind (only_trying (plain_ask rfl)) fun response => ?_
  dsimp only
  split
  · exact .except_bind trivial fun _ => trivial
  · trivial

theorem plain_readManifest (sofar : List UInt8) : Plain (readManifest sofar).run := by
  induction sofar using readManifest.induct with
  | case1 sofar ih =>
    rw [readManifest]
    refine .except_bind (only_trying (plain_ask rfl)) fun part => ?_
    split
    · trivial
    · split
      · trivial
      · exact ih part ‹_› ‹_›

theorem plain_check (width : Width) (backend : Provision.Backend)
    : Plain (check width backend) := by
  have fetching : Plain (fetchManifest backend).run :=
    .except_bind (plain_connect _) fun _ =>
      .except_bind (plain_request ..) fun _ => plain_readManifest _
  refine .bind fetching fun answer => ?_
  cases answer with
  | error failure => exact .bind plain_say fun _ => trivial
  | ok manifest =>
    dsimp only
    cases releaseOfJson width manifest with
    | error e => exact .bind plain_say fun _ => trivial
    | ok release =>
      dsimp only
      split <;> exact .bind plain_say fun _ => trivial

-----------------------------------------------------------------------------
-- The image

/-- The parts of an image up to its end, each of them written as it was read. -/
inductive Streamed : Nat → List UInt8 → List (Event Platform) → Prop where
  | done {left : Nat} (part : Part imageRoom (some left)) (ended : part.bytes = [])
      : Streamed left [] [⟨.call (.read imageRoom (some left)), .ok part⟩]
  | more {left : Nat} {image : List UInt8} {events : List (Event Platform)}
      (part : Part imageRoom (some left)) (more : part.bytes ≠ [])
      (rest : Streamed (left - part.bytes.length) image events)
      : Streamed left (part.bytes ++ image)
          (⟨.call (.read imageRoom (some left)), .ok part⟩
            :: ⟨.call (.writeUpdate part.bytes), .ok ()⟩ :: events)

theorem transfer_runs {left total count : Nat} (isWord : total < width.values)
    (h : Runs (transfer width left total).run events (.ok count))
    : ∃ image, count = (total + image.length) % width.values ∧ Streamed left image events := by
  induction left, total using transfer.induct width generalizing events with
  | case1 left total ih =>
    rw [transfer] at h
    obtain ⟨part, rest, rfl, read⟩ := call_bind_ok h Runs.request_iff.1
    by_cases ended : part.bytes = []
    · rw [dif_pos ended] at read
      obtain ⟨rfl, same⟩ := Runs.done_iff.1 read
      cases same
      exact ⟨[], (Nat.mod_eq_of_lt isWord).symm, .done part ended⟩
    · rw [dif_neg ended] at read
      obtain ⟨⟨⟩, rest, rfl, written⟩ := call_bind_ok read Runs.request_iff.1
      obtain ⟨image, rfl, streamed⟩ :=
        ih part ended (Nat.mod_lt _ width.values_pos) written
      refine ⟨part.bytes ++ image, ?_, .more part ended streamed⟩
      rw [List.length_append, ← Nat.add_assoc, Nat.mod_add_mod]

theorem checkSize_runs_iff {announced : Option Nat} {total : Nat}
    : Runs (checkSize announced total).run events (.ok ())
      ↔ events = [] ∧ ∀ size ∈ announced, size = total := by
  cases announced with
  | none => simp [checkSize]
  | some expected =>
    by_cases same : expected = total
    · simp [checkSize, same]
    · simp only [checkSize, same, Option.mem_some_iff, forall_eq', and_false, iff_false]
      intro h
      cases (Runs.done_iff.1 h).2

theorem transferAll_runs {announced : Option Nat} {length count : Nat}
    (h : Runs (transferAll width announced length).run events (.ok count))
    : ∃ image, Streamed length image events
      ∧ ∀ size ∈ announced, size = image.length % width.values := by
  rw [transferAll, bind_ok_iff] at h
  obtain ⟨streaming, rest, total, rfl, transferred, h⟩ := h
  obtain ⟨image, counted, streamed⟩ := transfer_runs width.values_pos transferred
  rw [bind_ok_iff] at h
  obtain ⟨checking, rest, ⟨⟩, rfl, checked, done⟩ := h
  obtain ⟨rfl, -⟩ := Runs.done_iff.1 done
  obtain ⟨rfl, sizes⟩ := checkSize_runs_iff.1 checked
  rw [counted, Nat.zero_add] at sizes
  exact ⟨image, by simpa using streamed, sizes⟩

/-- The slot has been completed. -/
def completed : Event Platform :=
  ⟨.call .completeUpdate, .ok ()⟩

/-- How the image of a release gets into the slot: from its place, with a status of success, part
by part up to its end, as long as announced so far as a word tells, and completed after that.
-/
def Stages (width : Width) (release : Release) (image : List UInt8)
    (events : List (Event Platform)) : Prop :=
  ∃ length streamed,
    events
      = [⟨.call (.connect 4096 imagePatience), .ok ()⟩,
          ⟨.call (.get release.url []), .ok ()⟩,
          ⟨.call .submit, .ok ⟨200, length⟩⟩,
          ⟨.call .openSlot, .ok ()⟩,
          ⟨.call .beginUpdate, .ok ()⟩]
        ++ streamed ++ [completed]
    ∧ Streamed length image streamed
    ∧ ∀ size ∈ release.size, size = image.length % width.values

/-- The bytes that are written into the slot, in order. -/
def written (events : List (Event Platform)) : List UInt8 :=
  events.flatMap fun
    | ⟨.call (.writeUpdate bytes), .ok ()⟩ => bytes
    | _ => []

/-- What the slot took can be addressed. The platform documents the slot as a part of a flash whose
size is a word, and writing beyond its end as a failure. So these are fewer bytes than a word has
values.
-/
def Addressable (width : Width) (taken : List UInt8) : Prop :=
  taken.length < width.values

instance (width : Width) (taken : List UInt8) : Decidable (Addressable width taken) :=
  Nat.decLt ..

@[simp]
theorem written_append (first second : List (Event Platform))
    : written (first ++ second) = written first ++ written second :=
  List.flatMap_append

/-- Plain requests write nothing into the slot. -/
theorem written_of_plain {events : List (Event Platform)}
    (plain : ∀ e ∈ events, e.request.kind = .plain)
    : written events = [] := by
  refine List.flatMap_eq_nil_iff.2 fun e member => ?_
  have kind := plain e member
  obtain ⟨r, answer⟩ := e
  cases r with
  | call c =>
    cases c with
    | writeUpdate bytes => cases kind
    | _ => rfl
  | _ => rfl

/-- What is written of an image is what was read of it, by induction over its parts. -/
theorem Streamed.written_eq {left : Nat} {image : List UInt8} {events : List (Event Platform)}
    (streamed : Streamed left image events)
    : written events = image := by
  induction streamed with
  | done part ended => rfl
  | more part more _ ih =>
    rw [← ih]
    rfl

theorem Stages.written_eq {release : Release} {image : List UInt8} {events : List (Event Platform)}
    (stages : Stages width release image events)
    : written events = image := by
  obtain ⟨length, streamed, rfl, parts, -⟩ := stages
  rw [written_append, written_append, parts.written_eq]
  exact List.append_nil image

/-- Plain requests before and after it change nothing of what is written. -/
theorem Stages.written_amid {release : Release} {image : List UInt8}
    {before staged after : List (Event Platform)} (stages : Stages width release image staged)
    (plainBefore : ∀ e ∈ before, e.request.kind = .plain)
    (plainAfter : ∀ e ∈ after, e.request.kind = .plain)
    : written (before ++ staged ++ after) = image := by
  rw [written_append, written_append, written_of_plain plainBefore, written_of_plain plainAfter,
    stages.written_eq]
  exact List.append_nil image

/-- Work that neither completes the slot nor ends everything. -/
def Unfinishing {α : Type} (p : Program Platform α) : Prop :=
  p.Only fun (r : Request) => r ≠ .call .completeUpdate ∧ r.kind ≠ .final

theorem Unfinishing.of_plain {p : Program Platform α} (h : Plain p) : Unfinishing p := by
  refine h.mono fun r plain => ⟨?_, ?_⟩
  · intro same
    rw [same] at plain
    cases plain
  · intro final
    cases plain.symm.trans final

theorem Unfinishing.not_completed {p : Program Platform α} {a : α} (h : Unfinishing p)
    (ran : Runs p events a)
    : completed ∉ events := by
  intro member
  obtain ⟨other, -⟩ := Program.Only.of_runs ran h completed member
  exact other rfl

theorem unfinishing_ask {r : Request} (other : r ≠ .call .completeUpdate) (lasts : r.kind ≠ .final)
    : Unfinishing (ask r) :=
  Program.Only.request_iff.2 ⟨other, lasts⟩

theorem unfinishing_transferAll (width : Width) (announced : Option Nat) (length : Nat)
    : Unfinishing (transferAll width announced length).run := by
  have unfinishing_transfer (left total : Nat) : Unfinishing (transfer width left total).run := by
    induction left, total using transfer.induct width with
    | case1 left total ih =>
      rw [transfer]
      refine .except_bind (only_trying (unfinishing_ask (by nofun) (by nofun))) fun part => ?_
      split
      · trivial
      · refine .except_bind (only_trying (unfinishing_ask (by nofun) (by nofun))) fun _ => ?_
        exact ih part ‹_›
  refine .except_bind (unfinishing_transfer length 0) fun total => ?_
  refine .except_bind ?_ fun _ => trivial
  cases announced with
  | none => trivial
  | some expected =>
    dsimp only [checkSize]
    split <;> trivial

theorem unfinishing_abort : Unfinishing abort := by
  refine .bind (unfinishing_ask (by nofun) (by nofun)) fun answer => ?_
  cases answer with
  | ok _ => trivial
  | error code => exact Unfinishing.of_plain plain_say

/-- Work that goes on without completing the slot may fail without having completed it. -/
theorem unfinishing_bind_runs {x : Attempted α} {f : α → Attempted β} {result : Except Failure β}
    (unfinishing : Unfinishing x.run) (h : Runs (x >>= f).run events result)
    : (∃ failure, result = .error failure) ∧ completed ∉ events
      ∨ ∃ first second a, events = first ++ second ∧ completed ∉ first ∧ Runs x.run first (.ok a)
        ∧ Runs (f a).run second result := by
  rcases Runs.except_bind_iff.1 h with ⟨failure, rfl, failed⟩ | ⟨first, second, a, rfl, ran, rest⟩
  · exact .inl ⟨⟨failure, rfl⟩, unfinishing.not_completed failed⟩
  · exact .inr ⟨first, second, a, rfl, unfinishing.not_completed ran, ran, rest⟩

/-- The first half of a download: the server sends the image, and the slot is open for it. -/
def prepare (release : Release) : Attempted Response := do
  connect imagePatience
  let response ← request "download firmware" release.url []
  trying (ask (.call .openSlot))
  trying (ask (.call .beginUpdate))
  return response

/-- The second half of a download: the image goes into the slot. -/
def fill (width : Width) (release : Release) (response : Response) : Attempted Nat := do
  match ← sure (transferAll width release.size response.length).run with
  | .ok total =>
    trying (ask (.call .completeUpdate))
    return total
  | .error failure =>
    sure abort
    throw failure

theorem download_eq (width : Width) (release : Release)
    : download width release = prepare release >>= fill width release := by
  simp only [prepare, bind_assoc, pure_bind]
  rfl

theorem unfinishing_prepare (release : Release) : Unfinishing (prepare release).run := by
  refine .except_bind (Unfinishing.of_plain (plain_connect _)) fun _ => ?_
  refine .except_bind (Unfinishing.of_plain (plain_request ..)) fun _ => ?_
  have opens : Unfinishing (ask (.call .openSlot)) := unfinishing_ask nofun nofun
  have begins : Unfinishing (ask (.call .beginUpdate)) := unfinishing_ask nofun nofun
  refine .except_bind (only_trying opens) fun _ => ?_
  refine .except_bind (only_trying begins) fun _ => ?_
  trivial

theorem prepare_runs {release : Release} {response : Response}
    (h : Runs (prepare release).run events (.ok response))
    : events
      = [⟨.call (.connect 4096 imagePatience), .ok ()⟩,
        ⟨.call (.get release.url []), .ok ()⟩,
        ⟨.call .submit, .ok ⟨200, response.length⟩⟩,
        ⟨.call .openSlot, .ok ()⟩,
        ⟨.call .beginUpdate, .ok ()⟩] := by
  rw [prepare, bind_ok_iff] at h
  obtain ⟨connecting, rest, ⟨⟩, rfl, connected, h⟩ := h
  obtain rfl := connect_runs connected
  rw [bind_ok_iff] at h
  obtain ⟨requesting, rest, response', rfl, answered, h⟩ := h
  obtain rfl := (request_iff.1 answered).events_eq
  obtain ⟨⟨⟩, rest, rfl, opened⟩ := call_bind_ok h Runs.request_iff.1
  obtain ⟨⟨⟩, rest, rfl, begun⟩ := call_bind_ok opened Runs.request_iff.1
  obtain ⟨rfl, same⟩ := Runs.done_iff.1 begun
  cases same
  rfl

/-- The slot is completed behind an image that has arrived as a whole, and only there. -/
theorem fill_runs {release : Release} {response : Response} {result : Except Failure Nat}
    (h : Runs (fill width release response).run events result)
    : (∃ total image streamed, result = .ok total ∧ events = streamed ++ [completed]
        ∧ Streamed response.length image streamed
        ∧ ∀ size ∈ release.size, size = image.length % width.values)
      ∨ (∃ failure, result = .error failure) ∧ completed ∉ events := by
  have unfinishing := only_sure (unfinishing_transferAll width release.size response.length)
  rcases unfinishing_bind_runs unfinishing h with
    failed | ⟨streaming, rest, outcome, rfl, unfinished, transferring, ending⟩
  · exact .inr failed
  obtain ⟨outcome, transferred, same⟩ := sure_runs_iff.1 transferring
  cases same
  cases outcome with
  | ok total =>
    rcases call_bind_runs ending Runs.request_iff.1 with
      ⟨code, rfl, rfl⟩ | ⟨⟨⟩, nothing, rfl, done⟩
    · have other : completed ≠ ⟨.call .completeUpdate, .error code⟩ := nofun
      exact .inr ⟨⟨_, rfl⟩, by simp [unfinished, other]⟩
    · obtain ⟨rfl, rfl⟩ := Runs.done_iff.1 done
      obtain ⟨image, streamed, sizes⟩ := transferAll_runs transferred
      exact .inl ⟨total, image, streaming, rfl, rfl, streamed, sizes⟩
  | error failure =>
    rcases unfinishing_bind_runs (only_sure unfinishing_abort) ending with
      ⟨failed, unfinished'⟩ | ⟨aborting, nothing, ⟨⟩, rfl, unfinished', -, done⟩
    · exact .inr ⟨failed, by simp [unfinished, unfinished']⟩
    · obtain ⟨rfl, rfl⟩ := Runs.done_iff.1 done
      exact .inr ⟨⟨failure, rfl⟩, by simp [unfinished, unfinished']⟩

/-- A download brings an image into the slot, or fails and leaves the slot incomplete. -/
theorem download_runs {release : Release} {result : Except Failure Nat}
    (h : Runs (download width release).run events result)
    : (∃ total image, result = .ok total ∧ Stages width release image events)
      ∨ (∃ failure, result = .error failure) ∧ completed ∉ events := by
  rw [download_eq] at h
  rcases unfinishing_bind_runs (unfinishing_prepare release) h with
    failed | ⟨preparing, filling, response, rfl, unfinished, prepared, filled⟩
  · exact .inr failed
  rcases fill_runs filled with
    ⟨total, image, streamed, rfl, rfl, arrived, sizes⟩ | ⟨failed, unfinished'⟩
  · obtain rfl := prepare_runs prepared
    exact .inl ⟨total, image, rfl, response.length, streamed, by simp, arrived, sizes⟩
  · exact .inr ⟨failed, by simp [unfinished, unfinished']⟩

/-- An installation that goes well brings an image into the slot, and any other one leaves the slot
incomplete.
-/
theorem install_runs {release : Release} {installation : Installation}
    (h : Runs (install width release) events installation)
    : (installation = .staged ∧ ∃ image staged line, events = staged ++ [line]
        ∧ line.request.kind = .plain ∧ Stages width release image staged)
      ∨ installation = .failed installFailure ∧ completed ∉ events := by
  rw [install, Runs.bind_iff] at h
  obtain ⟨downloading, rest, result, rfl, ran, h⟩ := h
  rcases download_runs ran with ⟨total, image, rfl, stages⟩ | ⟨⟨failure, rfl⟩, unfinished⟩
  · obtain ⟨told, rfl⟩ := Runs.then_done_iff.1 h
    obtain rfl := Runs.request_iff.1 told
    exact .inl ⟨rfl, image, downloading, _, rfl, rfl, stages⟩
  · obtain ⟨told, rfl⟩ := Runs.then_done_iff.1 h
    have unfinished' := Unfinishing.not_completed (.of_plain plain_say) told
    exact .inr ⟨rfl, by simp [unfinished, unfinished']⟩

/-- An installation ends nothing but itself. -/
theorem install_lasts (width : Width) (release : Release)
    : (install width release).Only (Request.kind · ≠ .final) := by
  have lasts_of_plain {α : Type} {p : Program Platform α} (h : Plain p)
      : p.Only (Request.kind · ≠ .final) :=
    h.mono fun r plain final => nomatch plain.symm.trans final
  have lasts_of_unfinishing {α : Type} {p : Program Platform α} (h : Unfinishing p)
      : p.Only (Request.kind · ≠ .final) :=
    h.mono fun r unfinishing => unfinishing.2
  refine .bind ?_ fun result => ?_
  · rw [download_eq]
    refine .except_bind (lasts_of_unfinishing (unfinishing_prepare release)) fun response => ?_
    refine .except_bind (only_sure (lasts_of_unfinishing (unfinishing_transferAll ..)))
      fun outcome => ?_
    cases outcome with
    | ok total =>
      refine .except_bind (only_trying (Program.Only.request_iff.2 ?_)) fun _ => trivial
      nofun
    | error failure =>
      exact .except_bind (only_sure (lasts_of_unfinishing unfinishing_abort)) fun _ => trivial
  · cases result <;> exact .bind (lasts_of_plain plain_say) fun _ => trivial

end Caretaker.Device.Server
