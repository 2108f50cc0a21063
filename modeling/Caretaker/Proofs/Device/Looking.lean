import Caretaker.Proofs.Device.Fetching
import Caretaker.Proofs.Device.Manifest
import Caretaker.Proofs.Json.Rendering

/-!
A look for a release depends on the bytes of the manifest and not on the parts in which they come.
A manifest that is too long is given up at once, so a look ends whatever the server sends.
-/

namespace Caretaker.Device.Server

open Attempted Json

variable {width : Width} {events : List (Event Platform)} {sofar : List UInt8}
  {result : Except Failure (List UInt8)}

-----------------------------------------------------------------------------
-- Reading a manifest

/-- What the reads of a response come to, in order. -/
def reads (events : List (Event Platform)) : List (Except Code (List UInt8)) :=
  events.filterMap fun
    | ⟨.call (.read ..), answer⟩ => some (answer.map Part.bytes)
    | _ => none

/-- The bytes of a response that are read. -/
def received (events : List (Event Platform)) : List UInt8 :=
  (reads events).flatMap fun
    | .ok part => part
    | .error _ => []

/-- What keeps a manifest from being fetched: a call that fails, or a response with another status
than success.
-/
def Breaks : Event Platform → Prop
  | ⟨.call (.connect ..), .error _⟩ | ⟨.call (.get ..), .error _⟩ | ⟨.call .submit, .error _⟩
  | ⟨.call (.read ..), .error _⟩ => True
  | ⟨.call .submit, .ok response⟩ => response.status ≠ 200
  | _ => False

/-- Parts in which a body can come. -/
def Chunked (parts : List (List UInt8)) : Prop :=
  ∀ part ∈ parts, 1 ≤ part.length ∧ part.length ≤ 512

/-- A server delivers a body in these parts: nothing fails, and the parts are read in their order as
far as they are read at all.
-/
def Delivers (parts : List (List UInt8)) (events : List (Event Platform)) : Prop :=
  (∀ e ∈ events, ¬ Breaks e) ∧ reads events <+: (parts ++ [[]]).map .ok

/-- What comes of a body, if it is delivered. -/
def gathered (body : List UInt8) : Except Failure (List UInt8) :=
  if manifestLimit < body.length then .error (.manifestTooLong manifestLimit) else .ok body

@[simp]
theorem reads_append (first second : List (Event Platform))
    : reads (first ++ second) = reads first ++ reads second :=
  List.filterMap_append

@[simp]
theorem reads_reading_cons (answer : Except Code (Part manifestRoom none))
    (events : List (Event Platform))
    : reads (reading answer :: events) = answer.map Part.bytes :: reads events := rfl

@[simp]
theorem reads_nil : reads [] = [] := rfl

theorem received_reading_cons (part : Part manifestRoom none) (events : List (Event Platform))
    : received (reading (.ok part) :: events) = part.bytes ++ received events := rfl

/-- Gathering ends after a limited number of reads, and it never holds more than one part too many.
By induction over the reads.
-/
theorem Gathers.bounded (gathers : Gathers sofar events result)
    (short : sofar.length ≤ manifestLimit)
    : sofar.length + (reads events).length ≤ manifestLimit + 1
      ∧ sofar.length + (received events).length ≤ manifestLimit + manifestRoom := by
  induction gathers with
  | unread code => exact ⟨Nat.succ_le_succ short, Nat.le_add_right_of_le short⟩
  | ended part last =>
    refine ⟨Nat.succ_le_succ short, ?_⟩
    rw [received_reading_cons, last]
    exact Nat.le_add_right_of_le short
  | tooLong part nonempty long =>
    refine ⟨Nat.succ_le_succ short, ?_⟩
    rw [received_reading_cons, List.length_append]
    exact Nat.add_le_add short part.le_room
  | more part nonempty fits rest ih =>
    obtain ⟨few, little⟩ := ih fits
    have some := List.length_pos_iff.2 nonempty
    rw [List.length_append] at few little
    rw [reads_reading_cons, received_reading_cons, List.length_cons, List.length_append]
    constructor <;> omega

/-- Nothing is done in gathering but reading, by induction over the reads. -/
theorem Gathers.length_reads (gathers : Gathers sofar events result)
    : (reads events).length = events.length := by
  induction gathers with
  | unread | ended | tooLong => rfl
  | more part nonempty fits rest ih => exact congrArg Nat.succ ih

/-- Whatever keeps a manifest from being fetched keeps it from being gathered, by induction over the
reads.
-/
theorem Gathers.failed_of_breaks (gathers : Gathers sofar events result) {e : Event Platform}
    (member : e ∈ events) (breaks : Breaks e)
    : ∃ failure, result = .error failure := by
  induction gathers with
  | unread code => exact ⟨_, rfl⟩
  | ended part last =>
    obtain rfl := List.mem_singleton.1 member
    exact breaks.elim
  | tooLong part nonempty long => exact ⟨_, rfl⟩
  | more part nonempty fits rest ih =>
    rcases List.mem_cons.1 member with rfl | member
    · exact breaks.elim
    · exact ih member

/-- A part that is read of a body is the first one of those in which it comes. -/
theorem eq_cons_of_delivered {parts : List (List UInt8)} {part : Part manifestRoom none}
    (nonempty : part.bytes ≠ [])
    (delivered : reads (reading (.ok part) :: events) <+: (parts ++ [[]]).map .ok)
    : ∃ others, parts = part.bytes :: others ∧ reads events <+: (others ++ [[]]).map .ok := by
  cases parts with
  | nil =>
    obtain ⟨same, -⟩ := List.cons_prefix_cons.1 delivered
    exact absurd (Except.ok.inj same) nonempty
  | cons first others =>
    obtain ⟨same, behind⟩ := List.cons_prefix_cons.1 delivered
    exact ⟨others, by rw [Except.ok.inj same], behind⟩

/-- The parts of a body that is delivered are gathered to the whole of it, by induction over the
reads.
-/
theorem Gathers.eq_gathered {parts : List (List UInt8)} (gathers : Gathers sofar events result)
    (short : sofar.length ≤ manifestLimit) (chunked : Chunked parts)
    (delivered : reads events <+: (parts ++ [[]]).map .ok)
    : result = gathered (sofar ++ parts.flatten) := by
  induction gathers generalizing parts with
  | unread code =>
    obtain ⟨rest, same⟩ := delivered
    cases parts <;> cases same
  | ended part last =>
    cases parts with
    | nil => rw [List.flatten_nil, List.append_nil, gathered, if_neg (Nat.not_lt.2 short)]
    | cons first others =>
      obtain ⟨same, -⟩ := List.cons_prefix_cons.1 delivered
      obtain ⟨full, -⟩ := chunked first (.head _)
      rw [← Except.ok.inj same, last] at full
      cases full
  | tooLong part nonempty long =>
    obtain ⟨others, rfl, -⟩ := eq_cons_of_delivered nonempty delivered
    rw [List.flatten_cons, ← List.append_assoc, gathered, if_pos]
    exact Nat.lt_of_lt_of_le long (by simp)
  | more part nonempty fits rest ih =>
    obtain ⟨others, rfl, behind⟩ := eq_cons_of_delivered nonempty delivered
    rw [List.flatten_cons, ← List.append_assoc]
    exact ih fits (fun part member => chunked part (.tail _ member)) behind

/-- Every body that comes in parts can be gathered, by induction over the parts. -/
theorem exists_gathers {parts : List (List UInt8)} (short : sofar.length ≤ manifestLimit)
    (chunked : Chunked parts)
    : ∃ events, Gathers sofar events (gathered (sofar ++ parts.flatten))
      ∧ Delivers parts events := by
  induction parts generalizing sofar with
  | nil =>
    let part : Part manifestRoom none := ⟨[], Nat.zero_le _, nofun⟩
    refine ⟨[reading (.ok part)], ?_, ?_, List.prefix_rfl⟩
    · rw [List.flatten_nil, List.append_nil, gathered, if_neg (Nat.not_lt.2 short)]
      exact .ended part rfl
    · intro e member
      obtain rfl := List.mem_singleton.1 member
      exact id
  | cons first others ih =>
    obtain ⟨full, small⟩ := chunked first (.head _)
    have nonempty := List.length_pos_iff.1 full
    let part : Part manifestRoom none := ⟨first, small, nofun⟩
    rw [List.flatten_cons, ← List.append_assoc]
    by_cases long : manifestLimit < (sofar ++ first).length
    · refine ⟨[reading (.ok part)], ?_, ?_, List.cons_prefix_cons.2 ⟨rfl, List.nil_prefix⟩⟩
      · rw [gathered, if_pos]
        · exact .tooLong part nonempty long
        · exact Nat.lt_of_lt_of_le long (by simp)
      · intro e member
        obtain rfl := List.mem_singleton.1 member
        exact id
    · have fits := Nat.le_of_not_lt long
      obtain ⟨events, gathers, unbroken, delivered⟩ :=
        ih fits fun part member => chunked part (.tail _ member)
      refine ⟨_, .more part nonempty fits gathers, ?_, List.cons_prefix_cons.2 ⟨rfl, delivered⟩⟩
      intro e member
      rcases List.mem_cons.1 member with rfl | member
      · exact id
      · exact unbroken e member

/-- Gathering ends even if the body does not, by induction over the room that is left. -/
theorem exists_gathers_endless {stream : Nat → Part manifestRoom none}
    (nonempty : ∀ n, (stream n).bytes ≠ [])
    : ∃ count, Gathers sofar ((List.range count).map fun n => reading (.ok (stream n)))
        (.error (.manifestTooLong manifestLimit)) := by
  induction sofar using readManifest.induct generalizing stream with
  | case1 sofar ih =>
    by_cases long : manifestLimit < (sofar ++ (stream 0).bytes).length
    · exact ⟨1, .tooLong (stream 0) (nonempty 0) long⟩
    · obtain ⟨count, gathers⟩ :=
        ih (stream 0) (nonempty 0) long fun n => nonempty (n + 1)
      refine ⟨count + 1, ?_⟩
      rw [List.range_succ_eq_map, List.map_cons, List.map_map]
      exact .more (stream 0) (nonempty 0) (Nat.le_of_not_lt long) gathers

-----------------------------------------------------------------------------
-- Fetching a manifest

/-- What is read is read behind asking for it. -/
theorem Asking.reads_behind {purpose url : String} {headers : List (String × String)}
    {answer : Except Failure Response} (asks : Asking purpose url headers events answer)
    (buffer millis : Nat) (rest : List (Event Platform))
    : reads (⟨.call (.connect buffer millis), .ok ()⟩ :: events ++ rest) = reads rest := by
  cases asks <;> rfl

/-- A resource is not taken only if something keeps it from being fetched. -/
theorem Asking.breaks_of_error {purpose url : String} {headers : List (String × String)}
    {failure : Failure} (asks : Asking purpose url headers events (.error failure))
    : ∃ e ∈ events, Breaks e := by
  cases asks with
  | unasked code => exact ⟨_, .head _, trivial⟩
  | unanswered code => exact ⟨_, .tail _ (.head _), trivial⟩
  | refused response status => exact ⟨_, .tail _ (.head _), status⟩

theorem Asking.unbroken {purpose url : String} {headers : List (String × String)}
    {response : Response} (asks : Asking purpose url headers events (.ok response))
    : ∀ e ∈ events, ¬ Breaks e := by
  cases asks with
  | answered _ status => simp [Breaks, status]

/-- Nothing is fetched if something keeps it from being fetched. -/
theorem Fetching.failed_of_breaks {backend : Provision.Backend}
    (fetching : Fetching backend events result) {e : Event Platform} (member : e ∈ events)
    (breaks : Breaks e)
    : ∃ failure, result = .error failure := by
  cases fetching with
  | unconnected code => exact ⟨_, rfl⟩
  | refused asks => exact ⟨_, rfl⟩
  | answered asks gathers =>
    rcases List.mem_append.1 member with member | member
    · rcases List.mem_cons.1 member with rfl | member
      · exact breaks.elim
      · exact absurd breaks (asks.unbroken e member)
    · exact gathers.failed_of_breaks member breaks

/-- Fetching reads no more than gathering does. -/
theorem Fetching.bounded {backend : Provision.Backend}
    (fetching : Fetching backend events result)
    : (reads events).length ≤ manifestLimit + 1
      ∧ (received events).length ≤ manifestLimit + manifestRoom := by
  unfold received
  cases fetching with
  | unconnected code => exact ⟨Nat.zero_le _, Nat.zero_le _⟩
  | refused asks =>
    have unread := asks.reads_behind 4096 manifestPatience []
    rw [List.append_nil] at unread
    rw [unread]
    exact ⟨Nat.zero_le _, Nat.zero_le _⟩
  | answered asks gathers =>
    obtain ⟨few, little⟩ := gathers.bounded (Nat.zero_le _)
    rw [List.length_nil, Nat.zero_add] at few little
    rw [asks.reads_behind]
    exact ⟨few, little⟩

/-- A body that is delivered is fetched as it is gathered. -/
theorem Fetching.eq_gathered {backend : Provision.Backend} {parts : List (List UInt8)}
    (fetching : Fetching backend events result) (chunked : Chunked parts)
    (delivers : Delivers parts events)
    : result = gathered parts.flatten := by
  obtain ⟨unbroken, delivered⟩ := delivers
  cases fetching with
  | unconnected code => exact absurd trivial (unbroken _ (.head _))
  | refused asks =>
    obtain ⟨e, member, breaks⟩ := asks.breaks_of_error
    exact absurd breaks (unbroken e (.tail _ member))
  | answered asks gathers =>
    rw [asks.reads_behind] at delivered
    exact gathers.eq_gathered (Nat.zero_le _) chunked delivered

/-- Every body that comes in parts can be delivered. -/
theorem exists_fetching {backend : Provision.Backend} {parts : List (List UInt8)}
    (chunked : Chunked parts)
    : ∃ events, Fetching backend events (gathered parts.flatten) ∧ Delivers parts events := by
  have empty : ([] : List UInt8).length ≤ manifestLimit := Nat.zero_le _
  obtain ⟨reading, gathers, unbroken, delivered⟩ := exists_gathers empty chunked
  have asks : Asking "fetch manifest" (manifestUrl backend) (manifestHeaders backend) _
      (.ok ⟨200, 0⟩) := .answered ⟨200, 0⟩ rfl
  refine ⟨_, .answered asks gathers, ?_, ?_⟩
  · intro e member
    rcases List.mem_append.1 member with member | member
    · rcases List.mem_cons.1 member with rfl | member
      · exact id
      · exact asks.unbroken e member
    · exact unbroken e member
  · rw [asks.reads_behind]
    exact delivered

-----------------------------------------------------------------------------
-- Looking for a release

/-- What is found in a manifest: nothing but failures if it is too long or does not describe a
release, and otherwise the release that it describes, unless that is the running firmware.
-/
def findingOf (width : Width) (body : List UInt8) : Finding :=
  if 2048 < body.length then
    .failed (-1)
  else
    match releaseOfJson width body with
    | .error _ => .failed (-2)
    | .ok release => if release.version = Firmware.version then .nothing else .found release

theorem verdict_gathered (body : List UInt8)
    : verdict width (gathered body) = findingOf width body := by
  unfold gathered findingOf manifestLimit
  by_cases long : 2048 < body.length
  · rw [if_pos long, if_pos long]
    rfl
  · rw [if_neg long, if_neg long]
    rfl

/-- What is said delivers nothing. -/
theorem delivers_said_iff {parts : List (List UInt8)} {record : Log.Record}
    : Delivers parts (events ++ [⟨.report (.say record), ()⟩]) ↔ Delivers parts events := by
  have unread : reads [⟨.report (.say record), ()⟩] = [] := rfl
  simp [Delivers, unread, or_imp, forall_and, Breaks]

/-- What a look finds depends on the body of the manifest and not on the parts in which it is
delivered, and every body that comes in parts can be delivered. Whatever keeps the manifest from
being fetched makes the look fail with `-1`, whatever has been read before. No look reads more than
2049 times or receives more than 512 bytes too many, and the reading ends even if the server never
ends its response. A record is read as a manifest if its members describe a release.
-/
theorem check_follows_body (width : Width) (backend : Provision.Backend)
    : (∀ parts, Chunked parts → ∀ finding,
        (∃ events, Runs (check width backend) events finding ∧ Delivers parts events)
          ↔ finding = findingOf width parts.flatten)
      ∧ (∀ events finding, Runs (check width backend) events finding → (∃ e ∈ events, Breaks e)
        → finding = .failed (-1))
      ∧ (∀ events finding, Runs (check width backend) events finding
        → (reads events).length ≤ 2049 ∧ (received events).length ≤ 2048 + 512)
      ∧ (∀ stream : Nat → Part manifestRoom none, (∀ n, (stream n).bytes ≠ [])
        → ∃ count ≤ 2049, Runs (readManifest []).run
            ((List.range count).map fun n => ⟨.call (.read manifestRoom none), .ok (stream n)⟩)
            (.error (.manifestTooLong 2048)))
      ∧ ∀ entries record before behind release,
        IsRecord entries record → Blank before
          → (releaseOfJson width (before ++ (record ++ behind)) = .ok release
            ↔ Blank behind ∧ Describes width entries release) := by
  refine ⟨?_, ?_, ?_, ?_, ?_⟩
  · intro parts chunked finding
    constructor
    · rintro ⟨events, ran, delivers⟩
      obtain ⟨fetched, result, fetching, rfl, rfl⟩ := check_runs_iff.1 ran
      rw [fetching.eq_gathered chunked (delivers_said_iff.1 delivers), verdict_gathered]
    · rintro rfl
      obtain ⟨fetched, fetching, delivers⟩ := exists_fetching chunked
      exact ⟨_, check_runs_iff.2 ⟨fetched, _, fetching, (verdict_gathered _).symm, rfl⟩,
        delivers_said_iff.2 delivers⟩
  · rintro events finding ran ⟨e, member, breaks⟩
    obtain ⟨fetched, result, fetching, rfl, rfl⟩ := check_runs_iff.1 ran
    rcases List.mem_append.1 member with member | member
    · obtain ⟨failure, rfl⟩ := fetching.failed_of_breaks member breaks
      rfl
    · obtain rfl := List.mem_singleton.1 member
      exact breaks.elim
  · intro events finding ran
    obtain ⟨fetched, result, fetching, rfl, rfl⟩ := check_runs_iff.1 ran
    rw [received, reads_append, show reads [_] = [] from rfl, List.append_nil]
    exact fetching.bounded
  · intro stream nonempty
    obtain ⟨count, gathers⟩ : ∃ count, Gathers [] _ _ := exists_gathers_endless nonempty
    refine ⟨count, ?_, readManifest_iff.2 gathers⟩
    have few := (gathers.bounded (Nat.zero_le _)).1
    rwa [gathers.length_reads, List.length_map, List.length_range, List.length_nil,
      Nat.zero_add] at few
  · intro entries record before behind release isRecord isBefore
    exact releaseOfJson_record_iff isRecord isBefore

/-- The members of a manifest with a version, a place and a size. -/
def membersOf (size : Nat) : List (String × Value) :=
  [("version", .text "2.0.0"), ("url", .text "http://host/image"), ("size", .whole size)]

/-- The manifest of these members. -/
def manifestOf (size : Nat) : List UInt8 :=
  Text.toBytes (Value.record (membersOf size)).render

/-- A manifest that comes byte by byte, with the greatest size that is a word and with the next one.
-/
theorem check_follows_body_bytewise
    : (∃ events,
        Runs (check .bits32 {}) events (.found ⟨"2.0.0", "http://host/image", some 4294967295⟩)
          ∧ Delivers ((manifestOf 4294967295).map ([·])) events)
      ∧ ∃ events, Runs (check .bits32 {}) events (.failed (-2))
          ∧ Delivers ((manifestOf 4294967296).map ([·])) events := by
  obtain ⟨follows, -, -, -, describes⟩ := check_follows_body .bits32 {}
  have chunked (body : List UInt8) : Chunked (body.map ([·])) := by
    intro part member
    obtain ⟨b, -, rfl⟩ := List.mem_map.1 member
    rw [List.length_singleton]
    exact ⟨Nat.le_refl 1, by decide⟩
  have whole (body : List UInt8) : (body.map ([·])).flatten = body := by
    rw [← List.flatMap_def, List.flatMap_singleton']
  refine ⟨(follows _ (chunked _) _).2 ?largest, (follows _ (chunked _) _).2 ?tooLarge⟩
  case largest =>
    have short : ¬ 2048 < (manifestOf 4294967295).length := by decide
    have isRecord : IsRecord _ (manifestOf 4294967295) :=
      isRecord_render fun member _ => isValue_render member.2
    have version : (filling .bits32).Spells (.version "2.0.0") _ := spells_quote "2.0.0"
    have url : (filling .bits32).Spells (.url "http://host/image") _ :=
      spells_quote "http://host/image"
    have size : (filling .bits32).Spells (.size (some 4294967295)) _ :=
      ⟨by decide, decimal_toString 4294967295⟩
    have described : Describes .bits32 ((membersOf 4294967295).map entryOf)
        ⟨"2.0.0", "http://host/image", some 4294967295⟩ :=
      ⟨_, .known rfl version (.known rfl url (.known rfl size .nil)), by decide, by simp, by simp,
        by simp [eq_comm]⟩
    have released := (describes _ _ [] [] _ isRecord .nil).2 ⟨.nil, described⟩
    rw [List.append_nil, List.nil_append] at released
    rw [whole, findingOf, if_neg short, released]
    exact (if_neg (by decide)).symm
  case tooLarge =>
    rw [whole]
    decide +kernel

end Caretaker.Device.Server
