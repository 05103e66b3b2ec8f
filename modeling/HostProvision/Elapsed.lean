/-! # Elapsed time

An elapsed time is a whole number of seconds below `2^64` and a number of nanoseconds below a
second. `ofParts?` carries whole seconds out of the nanoseconds and fails when the seconds then do
not fit. The measure of an elapsed time is its exact number of nanoseconds, `totalNanos`. -/

namespace HostProvision

/-- A length of time with nanosecond resolution. -/
@[ext] structure Elapsed where
  /-- Whole seconds. -/
  secs : Nat
  /-- Nanoseconds beyond the whole seconds. -/
  nanos : Nat
  /-- The seconds fit into 64 bits. -/
  secs_lt : secs < UInt64.size := by decide
  /-- The nanoseconds are less than a second. -/
  nanos_lt : nanos < 1000000000 := by decide
  deriving DecidableEq, Repr

namespace Elapsed

/-- Nanoseconds in a second. -/
abbrev nanosPerSecond : Nat := 1000000000

/-- No time at all. -/
def zero : Elapsed where
  secs := 0
  nanos := 0

/-- The longest time that can be told. -/
def longest : Elapsed where
  secs := UInt64.size - 1
  nanos := 999999999

instance : Inhabited Elapsed := ⟨zero⟩

/-- The exact number of nanoseconds. -/
def totalNanos (elapsed : Elapsed) : Nat :=
  elapsed.secs * nanosPerSecond + elapsed.nanos

/-- The elapsed time of an exact number of nanoseconds, if its seconds fit. -/
def ofNanos? (total : Nat) : Option Elapsed :=
  if fits : total / nanosPerSecond < UInt64.size then
    some ⟨total / nanosPerSecond, total % nanosPerSecond, fits, Nat.mod_lt _ (by decide)⟩
  else none

/-- The elapsed time of seconds and any number of nanoseconds, whole seconds among which are
carried, if the seconds fit. -/
def ofParts? (secs nanos : Nat) : Option Elapsed :=
  ofNanos? (secs * nanosPerSecond + nanos)

/-- The whole milliseconds of an elapsed time. -/
def millis (elapsed : Elapsed) : Nat :=
  elapsed.secs * 1000 + elapsed.nanos / 1000000

/-- The time between two readings of a clock, none if the second is the earlier one. -/
def since (later earlier : Elapsed) : Elapsed :=
  (ofNanos? (later.totalNanos - earlier.totalNanos)).getD zero

/-- Seconds and nanoseconds are recovered from the exact number of nanoseconds. -/
@[simp] theorem ofNanos?_totalNanos (elapsed : Elapsed) :
    ofNanos? elapsed.totalNanos = some elapsed := by
  have secs : elapsed.totalNanos / nanosPerSecond = elapsed.secs := by
    have := elapsed.nanos_lt
    simp only [totalNanos, nanosPerSecond]
    omega
  have nanos : elapsed.totalNanos % nanosPerSecond = elapsed.nanos := by
    have := elapsed.nanos_lt
    simp only [totalNanos, nanosPerSecond]
    omega
  have fits : elapsed.totalNanos / nanosPerSecond < UInt64.size := secs ▸ elapsed.secs_lt
  rw [ofNanos?, dif_pos fits]
  exact congrArg some (Elapsed.ext secs nanos)

/-- The parts of an elapsed time give it back. -/
@[simp] theorem ofParts?_secs_nanos (elapsed : Elapsed) :
    ofParts? elapsed.secs elapsed.nanos = some elapsed :=
  ofNanos?_totalNanos elapsed

/-- The milliseconds are the nanoseconds with the last six decimals cut off. -/
theorem millis_eq (elapsed : Elapsed) : elapsed.millis = elapsed.totalNanos / 1000000 := by
  simp only [millis, totalNanos, nanosPerSecond]
  omega

end Elapsed

end HostProvision
