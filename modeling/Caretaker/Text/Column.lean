/-!
Columns of a fixed number of characters. Characters are counted, never bytes, so no cut falls
inside a character.
-/

namespace Caretaker.Text

/-- The first `width` characters of a text, all of it if it is not longer. -/
def cut (width : Nat) (s : String) : String :=
  String.ofList (s.toList.take width)

/-- The text behind as many copies of `fill` as it lacks to `width` characters. -/
def alignRight (width : Nat) (fill : Char) (s : String) : String :=
  String.ofList (List.replicate (width - s.toList.length) fill ++ s.toList)

@[simp]
theorem toList_cut (width : Nat) (s : String)
    : (cut width s).toList = s.toList.take width := by
  simp [cut]

end Caretaker.Text
