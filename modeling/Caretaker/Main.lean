import Caretaker.Rehearsal

/-!
The program on a computer without a device: one rehearsal on the console, at its true pace.
-/

namespace Caretaker.Rehearsal

/-- A time in milliseconds by which a rehearsal is over. -/
def longestMillis : Nat := 60 * 1000

/-- Print lines, each at its own time. So many milliseconds have passed since boot. -/
def Printed.play (uptime : Nat) : List Printed → IO Unit
  | [] => pure ()
  | next :: rest => do
    IO.sleep (UInt32.ofNat (next.uptime - uptime))
    IO.println next.line
    play next.uptime rest

end Caretaker.Rehearsal

open Caretaker in
/-- Rehearse once. -/
def main : IO UInt32 := do
  let performance := Rehearsal.perform Rehearsal.longestMillis
  Log.Console.banner.forM IO.println
  Rehearsal.Printed.play 0 performance.printed
  match performance.ending with
  | .exited code => return UInt32.ofNat code
  | .timeLimit => return 1
