/-!
Texts as the bytes in which they are stored and sent.
-/

namespace Caretaker.Text

/-- The UTF-8 bytes of a text. -/
def toBytes (s : String) : List UInt8 :=
  s.toUTF8.data.toList

/-- The text that has these UTF-8 bytes, if there is one. -/
def ofBytes? (bytes : List UInt8) : Option String :=
  String.fromUTF8? ⟨bytes.toArray⟩

/-- Reading the bytes of a text gives the text back. -/
@[simp]
theorem ofBytes?_toBytes (s : String)
    : ofBytes? (toBytes s) = some s := by
  simp only [ofBytes?, toBytes, String.fromUTF8?, String.toUTF8_eq_toByteArray,
    Array.toArray_toList, dif_pos s.isValidUTF8]
  rfl

/-- Bytes that can be read are those of the text. -/
theorem toBytes_of_ofBytes? {bytes : List UInt8} {s : String} (read : ofBytes? bytes = some s)
    : toBytes s = bytes := by
  unfold ofBytes? String.fromUTF8? at read
  split at read
  · cases read
    rfl
  · cases read

/-- The bytes of a text are those of its characters in turn. -/
theorem toBytes_eq_flatMap (s : String) : toBytes s = s.toList.flatMap String.utf8EncodeChar := by
  have encoded := congrArg (fun bytes => bytes.data.toList) (String.utf8Encode_toList (b := s))
  rw [List.utf8Encode, List.data_toByteArray] at encoded
  exact encoded.symm

@[simp]
theorem toBytes_append (s t : String) : toBytes (s ++ t) = toBytes s ++ toBytes t := by
  simp only [toBytes_eq_flatMap, String.toList_append, List.flatMap_append]

/-- An ASCII character is one byte. -/
theorem utf8EncodeChar_of_ascii {c : Char} (ascii : c.toNat ≤ 127)
    : String.utf8EncodeChar c = [c.toNat.toUInt8] := by
  unfold String.utf8EncodeChar
  exact if_pos ascii

/-- The bytes of an ASCII text are the codes of its characters. -/
theorem toBytes_of_ascii {s : String} (ascii : ∀ c ∈ s.toList, c.toNat ≤ 127)
    : toBytes s = s.toList.map fun c => c.toNat.toUInt8 := by
  rw [toBytes_eq_flatMap, List.map_eq_flatMap]
  exact congrArg List.flatten
    (List.map_congr_left fun c member => utf8EncodeChar_of_ascii (ascii c member))

end Caretaker.Text
