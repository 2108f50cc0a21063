/-!
Answers given in turn, the last of them for good.
-/

namespace Caretaker

/-- The next of several answers given in turn, and those left. The last one is given again and
again, and `fallback` if there never was one.
-/
def inTurn {α : Type} (fallback : α) : List α → α × List α
  | [] => (fallback, [])
  | [a] => (a, [a])
  | a :: rest => (a, rest)

end Caretaker
