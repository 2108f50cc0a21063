import Caretaker.Text.Column
import Caretaker.Text.Utf8
import Mathlib.Data.List.Basic

/-!
Where a cut falls in the bytes of a text. Characters are counted, but a text is stored in bytes, and
a character may have up to four of them. What is left of a text ends at the byte with which the next
character begins, so that no character is cut through.
-/

namespace Caretaker.Text

-----------------------------------------------------------------------------
-- Where characters begin

/-- Where characters begin among the bytes of a text. -/
def starts (bytes : List UInt8) : List Nat :=
  bytes.findIdxs (·.IsUTF8FirstByte)

/-- Of the bytes of a character only the first one begins a character. -/
theorem findIdxs_utf8EncodeChar (c : Char) (offset : Nat)
    : (String.utf8EncodeChar c).findIdxs (·.IsUTF8FirstByte) offset = [offset] := by
  have first_iff (i : Nat) (within : i < (String.utf8EncodeChar c).length)
      : (String.utf8EncodeChar c)[i].IsUTF8FirstByte ↔ i = 0 :=
    UInt8.isUTF8FirstByte_getElem_utf8EncodeChar
  cases encoded : String.utf8EncodeChar c with
  | nil => exact absurd encoded String.utf8EncodeChar_ne_nil
  | cons byte others =>
    simp only [encoded] at first_iff
    have begins : byte.IsUTF8FirstByte := (first_iff 0 (Nat.succ_pos _)).2 rfl
    have continues : others.findIdxs (·.IsUTF8FirstByte) (offset + 1) = [] := by
      rw [List.findIdxs_eq_nil_iff]
      intro other member
      obtain ⟨i, within, rfl⟩ := List.getElem_of_mem member
      have unlike := mt (first_iff (i + 1) (Nat.succ_lt_succ within)).1 (Nat.succ_ne_zero i)
      exact decide_eq_false unlike
    rw [List.findIdxs_cons, if_pos (decide_eq_true begins), continues]

/-- A character begins with the first byte, and the others as much later as it has bytes. -/
theorem starts_cons (c : Char) (cs : List Char)
    : starts ((c :: cs).flatMap String.utf8EncodeChar)
      = 0 :: (starts (cs.flatMap String.utf8EncodeChar)).map
          (· + (String.utf8EncodeChar c).length) := by
  rw [starts, starts, List.flatMap_cons, List.findIdxs_append, findIdxs_utf8EncodeChar,
    List.findIdxs_start, Nat.zero_add]
  rfl

/-- There are as many starts as characters, by induction over the characters. -/
theorem length_starts (cs : List Char)
    : (starts (cs.flatMap String.utf8EncodeChar)).length = cs.length := by
  induction cs with
  | nil => rfl
  | cons c cs ih => rw [starts_cons, List.length_cons, List.length_map, ih, List.length_cons]

/-- The bytes of the first characters are those up to the start of the next one, if there is one. By
induction over the characters, in step with their number.
-/
theorem flatMap_take (width : Nat) (cs : List Char)
    : (cs.take width).flatMap String.utf8EncodeChar
      = (cs.flatMap String.utf8EncodeChar).take
          ((starts (cs.flatMap String.utf8EncodeChar))[width]?.getD
            (cs.flatMap String.utf8EncodeChar).length) := by
  induction cs generalizing width with
  | nil => simp
  | cons c cs ih =>
    rw [starts_cons]
    cases width with
    | zero => simp
    | succ width =>
      have later (start? : Option Nat) (most : Nat)
          : (start?.map (· + (String.utf8EncodeChar c).length)).getD
              ((String.utf8EncodeChar c).length + most)
            = (String.utf8EncodeChar c).length + start?.getD most := by
        cases start? with
        | none => rfl
        | some start => exact Nat.add_comm ..
      rw [List.take_succ_cons, List.flatMap_cons, ih, List.flatMap_cons, List.length_append,
        List.getElem?_cons_succ, List.getElem?_map, later, List.take_length_add_append]

-----------------------------------------------------------------------------
-- Cuts

theorem toBytes_cut (width : Nat) (s : String)
    : toBytes (cut width s)
      = (toBytes s).take ((starts (toBytes s))[width]?.getD (toBytes s).length) := by
  rw [toBytes_eq_flatMap (cut width s), toList_cut, flatMap_take, ← toBytes_eq_flatMap]

/-- A text that begins another one is its cut if it has just the characters that are left. -/
theorem cut_eq_iff {width : Nat} {s t : String}
    : cut width s = t ↔ (∃ rest, s = t ++ rest) ∧ t.length = min width s.length := by
  simp only [← String.length_toList]
  constructor
  · rintro rfl
    refine ⟨⟨String.ofList (s.toList.drop width), ?_⟩, ?_⟩
    · rw [← String.toList_inj, String.toList_append, toList_cut, String.toList_ofList,
        List.take_append_drop]
    · rw [toList_cut, List.length_take]
  · rintro ⟨⟨rest, rfl⟩, length⟩
    rw [← String.toList_inj, toList_cut]
    calc (t ++ rest).toList.take width
        = (t ++ rest).toList.take (min width (t ++ rest).toList.length) := List.take_eq_take_min
      _ = (t ++ rest).toList.take t.toList.length := by rw [length]
      _ = t.toList := by rw [String.toList_append, List.take_left]

/-- A text is cut between its characters. What is left is the beginning of the text with as many
characters as there is room for, and all of it just if it has no more than that. In bytes it goes up
to where the next character begins. Cutting again leaves what the narrower of both cuts leaves.
-/
theorem cut_falls_between_characters (width : Nat) (s : String)
    : (∀ t, cut width s = t ↔ (∃ rest, s = t ++ rest) ∧ t.length = min width s.length)
      ∧ s.length = (starts (toBytes s)).length
      ∧ toBytes (cut width s)
        = (toBytes s).take ((starts (toBytes s))[width]?.getD (toBytes s).length)
      ∧ (cut width s = s ↔ s.length ≤ width)
      ∧ ∀ other, cut other (cut width s) = cut (min width other) s := by
  refine ⟨fun _ => cut_eq_iff, ?_, toBytes_cut width s, ?_, fun other => ?_⟩
  · rw [toBytes_eq_flatMap, length_starts, String.length_toList]
  · rw [cut_eq_iff]
    constructor
    · intro h
      omega
    · intro fits
      exact ⟨⟨"", (String.append_empty).symm⟩, (Nat.min_eq_right fits).symm⟩
  · rw [← String.toList_inj, toList_cut, toList_cut, toList_cut, List.take_take, Nat.min_comm]

/-- The last letter that is left has two bytes. -/
example : cut 12 "watchdog_prét" = "watchdog_pré" := by decide

end Caretaker.Text
