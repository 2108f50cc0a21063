import Mathlib.Algebra.Ring.Nat
import Caretaker.Proofs.Json.Records
import Caretaker.Json.Value

/-!
Written values. What is written for a value is well formed, spells what was given, and is a record
of its members where the value is one.
-/

namespace Caretaker.Json

open Text

-----------------------------------------------------------------------------
-- Numbers

/-- The bytes of a number in decimal digits. -/
theorem toBytes_toString (n : Nat)
    : toBytes (toString n) = (Nat.toDigits 10 n).map fun c => code c := by
  rw [Nat.toString_eq_ofList_toDigits, toBytes_of_ascii, String.toList_ofList]
  intro c member
  rw [String.toList_ofList] at member
  have digit := Nat.isDigit_of_mem_toDigits (by decide) (by decide) member
  exact Nat.le_trans (Char.isDigit_iff_toNat.1 digit).2 (by decide)

theorem code_digitChar {n : Nat} (small : n < 10)
    : isDigit (code n.digitChar) = true ∧ Number.digitValue (code n.digitChar) = n
      ∧ (code n.digitChar = code '0' → n = 0) := by
  revert n
  decide

theorem digitsValue_append_singleton {ds : List UInt8} {d : UInt8}
    : digitsValue (ds ++ [d]) = digitsValue ds * 10 + Number.digitValue d := by
  simp [digitsValue]

/-- A number is written in decimal digits, by induction over the number with its last digit taken
off. No digit before others is a zero.
-/
theorem decimal_toDigits (n : Nat)
    : Decimal n ((Nat.toDigits 10 n).map fun c => code c)
      ∧ (((Nat.toDigits 10 n).map fun c => code c).head? = some (code '0') → n = 0) := by
  induction n using Nat.strongRecOn with
  | ind n ih =>
    obtain small | large := Nat.lt_or_ge n 10
    · obtain ⟨digit, value, zero⟩ := code_digitChar small
      rw [Nat.toDigits_of_lt_base small, List.map_singleton]
      refine ⟨⟨⟨⟨List.cons_ne_nil _ _, ?_⟩, fun _ => rfl⟩, ?_⟩, ?_⟩
      · simpa using digit
      · simpa [digitsValue] using value
      · simpa using zero
    · obtain ⟨⟨⟨⟨some, digits⟩, -⟩, value⟩, zero⟩ := ih (n / 10) (by omega)
      obtain ⟨digit, last, -⟩ := code_digitChar (Nat.mod_lt n (show 0 < 10 by decide))
      rw [Nat.toDigits_of_base_le (by decide) large, List.map_append, List.map_singleton]
      generalize (Nat.toDigits 10 (n / 10)).map (fun c => code c) = ds at some digits value zero
      have noZero : (ds ++ [code (n % 10).digitChar]).head? ≠ Option.some (code '0') := by
        rw [List.head?_append_of_ne_nil _ some]
        intro first
        have := zero first
        omega
      refine ⟨⟨⟨⟨by simp, ?_⟩, fun first => absurd first noZero⟩, ?_⟩,
        fun first => absurd first noZero⟩
      · intro d member
        rcases List.mem_append.1 member with member | member
        · exact digits d member
        · rw [List.mem_singleton.1 member]
          exact digit
      · rw [digitsValue_append_singleton, value, last]
        omega

/-- A number is written as the decimal that it is. -/
theorem decimal_toString (n : Nat) : Decimal n (toBytes (toString n)) := by
  rw [toBytes_toString]
  exact (decimal_toDigits n).1

/-- A number of so many digits takes so many bytes. -/
theorem length_whole {n k : Nat} (small : n < 10 ^ (k + 1))
    : (toBytes (Value.whole n).render).length ≤ k + 1 := by
  have rendered : (Value.whole n).render = toString n := rfl
  rw [rendered, toBytes_toString, List.length_map]
  exact (Nat.length_toDigits_le_iff (by decide) (by omega)).2 small

/-- A whole number is written as a value. -/
theorem isValue_whole (n : Int) : IsValue (toBytes (Value.whole n).render) := by
  rw [Value.render, Int.toString_eq_repr, Int.repr_eq_if]
  split
  case isTrue => exact (decimal_toString n.toNat).isValue
  case isFalse =>
    obtain ⟨whole, -⟩ := decimal_toString (-n).toNat
    rw [toBytes_append]
    exact @Written.number [code '-'] _ (.inr rfl) ⟨_, [], [], by simp, whole, .none, .none⟩

-----------------------------------------------------------------------------
-- Texts

theorem Spelled.append_plain {bytes text plain : List UInt8} (rest : Spelled bytes text)
    (all : ∀ b ∈ plain, isPlain b = true)
    : Spelled (plain ++ bytes) (plain ++ text) := by
  induction plain with
  | nil => exact rest
  | cons b plain ih =>
    exact .plain (all b (by simp)) (ih fun b' member => all b' (by simp [member]))

theorem Spelled.escaped_char {c : Char} {mark bytes text : List UInt8} (rest : Spelled bytes text)
    (escapes : Escapes c mark)
    : Spelled (String.utf8EncodeChar c ++ bytes) (code '\\' :: mark ++ text) := by
  have one : toBytes (String.singleton c) = String.utf8EncodeChar c := by
    simp [toBytes_eq_flatMap]
  rw [← one]
  exact .escaped escapes rest

/-- A character that needs no escape is made of bytes that stand for themselves. -/
theorem isPlain_of_mem_utf8EncodeChar {c : Char} (control : ¬ c.toNat < 0x20) (quote : c ≠ '"')
    (backslash : c ≠ '\\')
    : ∀ b ∈ String.utf8EncodeChar c, isPlain b = true := by
  have high {n : Nat} (large : 0x80 ≤ n) (small : n < 0x100) : isPlain (UInt8.ofNat n) = true := by
    revert n
    decide
  intro b member
  unfold String.utf8EncodeChar at member
  dsimp only at member
  split at member
  case isTrue ascii =>
    rw [List.mem_singleton.1 member]
    have ne {c' : Char} (other : c ≠ c') : c.toNat ≠ c'.toNat := mt Char.toNat_inj.1 other
    have notQuote : c.toNat ≠ 34 := ne quote
    have notBackslash : c.toNat ≠ 92 := ne backslash
    have plain : ∀ n < 128, 0x20 ≤ n → n ≠ 34 → n ≠ 92 → isPlain (UInt8.ofNat n) = true := by
      decide
    exact plain c.toNat (Nat.lt_succ_of_le ascii) (Nat.le_of_not_lt control) notQuote notBackslash
  case isFalse =>
    split at member
    case isTrue =>
      simp only [List.mem_cons, List.not_mem_nil, or_false] at member
      rcases member with rfl | rfl <;> exact high (by omega) (by omega)
    case isFalse =>
      split at member
      all_goals
        simp only [List.mem_cons, List.not_mem_nil, or_false] at member
        rcases member with rfl | rfl | rfl | rfl <;> exact high (by omega) (by omega)

/-- The number of a control character is written with two digits in base sixteen. -/
theorem escapes_control {c : Char} (control : c.toNat < 0x20)
    : Escapes c [code 'u', code '0', code '0', code (c.toNat / 16).digitChar,
        code (c.toNat % 16).digitChar] := by
  have number : ∀ n < 0x20,
      fourHex? (code '0') (code '0') (code (n / 16).digitChar) (code (n % 16).digitChar)
        = some n := by
    decide
  have escapes := Escapes.numbered (number c.toNat control) (.inl (by omega))
  rwa [Char.ofNat_toNat] at escapes

theorem toDigits_of_two {n : Nat} (small : n < 0x20) (large : ¬ n < 0x10)
    : Nat.toDigits 16 n = [(n / 16).digitChar, (n % 16).digitChar] := by
  rw [Nat.toDigits_of_base_le (by omega) (by omega),
    Nat.toDigits_of_lt_base (by omega : n / 16 < 16)]
  rfl

theorem toBytes_hex {n : Nat} (small : n < 0x20)
    : toBytes (Text.hex n) = (Nat.toDigits 16 n).map fun c => code c := by
  have ascii : ∀ d < 16, d.digitChar.toNat ≤ 127 := by decide
  rw [Text.hex, toBytes_of_ascii, String.toList_ofList]
  rw [String.toList_ofList]
  by_cases single : n < 0x10
  · simpa [Nat.toDigits_of_lt_base single] using ascii n single
  · simpa [toDigits_of_two small single]
      using ⟨ascii (n / 16) (by omega), ascii (n % 16) (by omega)⟩

/-- How a character is written between quotes spells it. -/
theorem spelled_escape {c : Char} {bytes text : List UInt8} (rest : Spelled bytes text)
    : Spelled (String.utf8EncodeChar c ++ bytes) (toBytes (escape c) ++ text) := by
  unfold escape
  split
  · exact rest.escaped_char (.short (show Reader.shortEscape? (code '"') = some '"' from rfl))
  · exact rest.escaped_char (.short (show Reader.shortEscape? (code '\\') = some '\\' from rfl))
  · exact rest.escaped_char (.short (show Reader.shortEscape? (code 'b') = some '\x08' from rfl))
  · exact rest.escaped_char (.short (show Reader.shortEscape? (code 'f') = some '\x0c' from rfl))
  · exact rest.escaped_char (.short (show Reader.shortEscape? (code 'n') = some '\n' from rfl))
  · exact rest.escaped_char (.short (show Reader.shortEscape? (code 'r') = some '\r' from rfl))
  · exact rest.escaped_char (.short (show Reader.shortEscape? (code 't') = some '\t' from rfl))
  · rename_i quote backslash _ _ _ _ _
    split
    case isTrue small =>
      have escapes := escapes_control (c := c) (by omega)
      rw [show c.toNat / 16 = 0 by omega, show c.toNat % 16 = c.toNat by omega] at escapes
      rw [toBytes_append, toBytes_hex (by omega), Nat.toDigits_of_lt_base small]
      exact rest.escaped_char escapes
    case isFalse medium =>
      split
      case isTrue small =>
        rw [toBytes_append, toBytes_hex small, toDigits_of_two small medium]
        exact rest.escaped_char (escapes_control small)
      case isFalse large =>
        rw [toBytes_eq_flatMap, String.toList_singleton, List.flatMap_singleton]
        exact rest.append_plain (isPlain_of_mem_utf8EncodeChar large quote backslash)

/-- A text is written as what spells it, by induction over its characters. -/
theorem spells_quote (s : String) : Spells s (toBytes (quote s)) := by
  have inner (cs : List Char)
      : Spelled (cs.flatMap String.utf8EncodeChar)
          (toBytes (String.join (cs.map escape)) ++ [code '"']) := by
    induction cs with
    | nil => exact .closed
    | cons c cs ih =>
      rw [List.flatMap_cons, List.map_cons, String.join_cons, toBytes_append, List.append_assoc]
      exact spelled_escape ih
  refine ⟨toBytes (String.join (s.toList.map escape)) ++ [code '"'], ?_, ?_⟩
  · rw [quote, toBytes_append, toBytes_append]
    rfl
  · rw [toBytes_eq_flatMap]
    exact inner s.toList

-----------------------------------------------------------------------------
-- Values

/-- Items are written one after the other, by induction over those behind the first. -/
theorem written_items {item : Value} {items : List Value}
    (areValues : ∀ v ∈ item :: items, IsValue (toBytes v.render))
    : ∃ tail, toBytes (Value.renderItems (item :: items)) ++ [code ']']
        = toBytes item.render ++ tail
      ∧ Written .items tail := by
  induction items generalizing item with
  | nil => exact ⟨[code ']'], rfl, @Written.lastItem [] .nil⟩
  | cons next items ih =>
    obtain ⟨tail, rendered, written⟩ := ih fun v member => areValues v (.tail _ member)
    refine ⟨code ',' :: (toBytes next.render ++ tail), ?_, ?_⟩
    · rw [← rendered]
      simp [Value.renderItems]
      rfl
    · exact @Written.nextItem [] [] _ _ .nil .nil (areValues next (by simp)) written

/-- A list of values is written as a value. -/
theorem isValue_list {items : List Value} (areValues : ∀ v ∈ items, IsValue (toBytes v.render))
    : IsValue (toBytes (Value.list items).render) := by
  rw [Value.render, toBytes_append, toBytes_append, List.append_assoc]
  cases items with
  | nil => exact @Written.emptyList [] .nil
  | cons item items =>
    obtain ⟨tail, rendered, written⟩ := written_items areValues
    rw [show toBytes "[" = [code '['] from rfl, show toBytes "]" = [code ']'] from rfl, rendered]
    have isList := Written.list .nil (areValues item (by simp)) written
    simpa using isList

/-- A member as it is found in the text of its record. -/
def entryOf (member : String × Value) : Entry :=
  (member.1, toBytes member.2.render)

theorem isMember_rendered {member : String × Value}
    (isValue : IsValue (toBytes member.2.render))
    : IsMember (entryOf member)
        (toBytes (quote member.1) ++ code ':' :: toBytes member.2.render) := by
  obtain ⟨spelling, quoted, spelled⟩ := spells_quote member.1
  refine ⟨[], spelling, [], [], ?_, .nil, spelled, .nil, .nil, isValue⟩
  rw [quoted]
  rfl

/-- Members are written one after the other, by induction over those behind the first. -/
theorem remaining_members {member : String × Value} {members : List (String × Value)}
    (areValues : ∀ m ∈ member :: members, IsValue (toBytes m.2.render))
    : ∃ tail, toBytes (Value.renderMembers (member :: members)) ++ [code '}']
        = toBytes (quote member.1) ++ code ':' :: toBytes member.2.render ++ tail
      ∧ Remaining (members.map entryOf) tail := by
  induction members generalizing member with
  | nil =>
    refine ⟨[code '}'], ?_, @Remaining.last [] .nil⟩
    simp only [Value.renderMembers, toBytes_append, List.append_assoc, List.cons_append]
    rfl
  | cons next members ih =>
    obtain ⟨tail, rendered, remaining⟩ := ih fun m isMember => areValues m (.tail _ isMember)
    have isMember := isMember_rendered (areValues next (by simp))
    refine ⟨code ',' :: (toBytes (quote next.1) ++ code ':' :: toBytes next.2.render ++ tail), ?_,
      @Remaining.next [] _ _ _ _ .nil isMember remaining⟩
    simp only [List.cons_append, List.append_assoc] at rendered ⊢
    rw [← rendered]
    simp only [Value.renderMembers, toBytes_append, List.append_assoc]
    rfl

/-- A record is written with its members in their order. -/
theorem isRecord_render {members : List (String × Value)}
    (areValues : ∀ m ∈ members, IsValue (toBytes m.2.render))
    : IsRecord (members.map entryOf) (toBytes (Value.record members).render) := by
  rw [Value.render, toBytes_append, toBytes_append, List.append_assoc]
  cases members with
  | nil => exact @IsRecord.empty [] .nil
  | cons member members =>
    obtain ⟨tail, rendered, remaining⟩ := remaining_members areValues
    rw [show toBytes "\x7b" = [code '{'] from rfl, show toBytes "\x7d" = [code '}'] from rfl,
      rendered]
    have isRecord := IsRecord.some (isMember_rendered (areValues member (by simp))) remaining
    simpa using isRecord

/-- The length of a record is that of its members, with one byte for each colon and each comma. -/
theorem length_record (members : List (String × Value))
    : (toBytes (Value.record members).render).length
      ≤ 2 + (members.map fun m =>
          (toBytes (quote m.1)).length + (toBytes m.2.render).length + 2).sum := by
  have inner : (toBytes (Value.renderMembers members)).length
      ≤ (members.map fun m =>
          (toBytes (quote m.1)).length + (toBytes m.2.render).length + 2).sum := by
    induction members with
    | nil => decide
    | cons member members ih =>
      have colon : (toBytes ":").length = 1 := by decide
      have comma : (toBytes ",").length = 1 := by decide
      rw [List.map_cons, List.sum_cons]
      cases members with
      | nil =>
        simp only [Value.renderMembers, toBytes_append, List.length_append]
        omega
      | cons next members =>
        simp only [Value.renderMembers, toBytes_append, List.length_append] at ih ⊢
        omega
  have opening : (toBytes "\x7b").length = 1 := by decide
  have closing : (toBytes "\x7d").length = 1 := by decide
  rw [Value.render, toBytes_append, toBytes_append, List.length_append, List.length_append]
  omega

/-- What is written for a value is a value, by recursion over its structure. -/
theorem isValue_render : (value : Value) → IsValue (toBytes value.render)
  | .flag true => @Written.word "true" (by simp)
  | .flag false => @Written.word "false" (by simp)
  | .whole n => isValue_whole n
  | .text s => (spells_quote s).isValue
  | .list items => isValue_list fun v _ => isValue_render v
  | .record members => (isRecord_render fun m _ => isValue_render m.2).isValue
termination_by value => sizeOf value
decreasing_by
  · have smaller := List.sizeOf_lt_of_mem ‹v ∈ items›
    simp only [Value.list.sizeOf_spec]
    omega
  · have smaller := List.sizeOf_lt_of_mem ‹m ∈ members›
    have part : sizeOf m = 1 + sizeOf m.1 + sizeOf m.2 := rfl
    simp only [Value.record.sizeOf_spec]
    omega

end Caretaker.Json
