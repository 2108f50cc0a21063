/-!
Time stamps are milliseconds kept in 32 bits, so they start again from zero after some 49 days.
Only differences are ever looked at, and those are right as long as the true time between two
readings fits in 32 bits.
-/

namespace Caretaker

/-- A clock reading: milliseconds modulo 2 ^ 32. -/
abbrev Stamp := UInt32

namespace Stamp

/-- The stamp of a true time in milliseconds. -/
def ofMillis (ms : Nat) : Stamp := UInt32.ofNat ms

/-- The time from an earlier reading to a later one, also when the clock started over between. -/
def since (earlier later : Stamp) : UInt32 := later - earlier

theorem toNat_since (earlier later : Stamp)
    : (since earlier later).toNat = (UInt32.size - earlier.toNat + later.toNat) % UInt32.size :=
  UInt32.toNat_sub later earlier

/-- The difference of two readings is that of their numbers modulo 2 ^ 32, whichever is larger. -/
theorem toNat_since_emod (earlier later : Stamp)
    : ((since earlier later).toNat : Int)
      = ((later.toNat : Int) - earlier.toNat) % UInt32.size := by
  have bound := UInt32.toNat_lt earlier
  rw [toNat_since]
  simp only [UInt32.size] at *
  omega

/-- The difference of the stamps of two true times is the true time between them, provided it
fits in 32 bits.
-/
theorem since_ofMillis {earlier later : Nat} (h : earlier ≤ later)
    (short : later - earlier < UInt32.size)
    : (since (ofMillis earlier) (ofMillis later)).toNat = later - earlier := by
  simp only [toNat_since, ofMillis, UInt32.toNat_ofNat', UInt32.size] at *
  omega

end Stamp

end Caretaker
