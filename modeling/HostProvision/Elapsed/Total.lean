import HostProvision.Elapsed

/-! # The sum of elapsed times

`total?` adds elapsed times one by one in 64-bit counters: seconds and nanoseconds apart, with whole
seconds carried out of the nanoseconds only when that counter is full and once at the end. It fails
when the seconds do not fit, and then the program breaks off with `overflowText`. -/

namespace HostProvision

namespace Elapsed

/-- The sum of two numbers, if it fits into 64 bits. -/
def add64? (a b : Nat) : Option Nat :=
  if a + b < UInt64.size then some (a + b) else none

/-- A sum that fits is the sum. -/
theorem eq_of_add64? {a b sum : Nat} (fits : add64? a b = some sum) : sum = a + b := by
  simp only [add64?] at fits
  split at fits
  · exact (Option.some.inj fits).symm
  · exact absurd fits nofun

/-- A sum under way: seconds and nanoseconds that have not been carried. -/
structure Tally where
  /-- The seconds added so far. -/
  secs : Nat
  /-- The nanoseconds added so far. -/
  nanos : Nat
  deriving DecidableEq, Repr

namespace Tally

/-- The sum of nothing. -/
def empty : Tally :=
  ⟨0, 0⟩

/-- Adds one elapsed time. -/
def add? (tally : Tally) (elapsed : Elapsed) : Option Tally := do
  let secs ← add64? tally.secs elapsed.secs
  match add64? tally.nanos elapsed.nanos with
  | some nanos => some ⟨secs, nanos⟩
  | none =>
    let carried ← add64? secs (tally.nanos / nanosPerSecond)
    some ⟨carried, tally.nanos % nanosPerSecond + elapsed.nanos⟩

/-- The elapsed time that a finished sum stands for. -/
def close? (tally : Tally) : Option Elapsed :=
  if fits : tally.secs + tally.nanos / nanosPerSecond < UInt64.size then
    some ⟨_, tally.nanos % nanosPerSecond, fits, Nat.mod_lt _ (by decide)⟩
  else none

/-- The exact number of nanoseconds of a sum under way. -/
def totalNanos (tally : Tally) : Nat :=
  tally.secs * nanosPerSecond + tally.nanos

/-- Adding keeps the exact number of nanoseconds. -/
theorem totalNanos_add? {tally next : Tally} {elapsed : Elapsed}
    (added : tally.add? elapsed = some next) :
    next.totalNanos = tally.totalNanos + elapsed.totalNanos := by
  obtain ⟨secs, hsecs, rest⟩ := Option.bind_eq_some_iff.1 added
  have secsEq := eq_of_add64? hsecs
  cases hnanos : add64? tally.nanos elapsed.nanos with
  | some nanos =>
    have nanosEq := eq_of_add64? hnanos
    simp only [hnanos, Option.some.injEq] at rest
    subst rest
    simp only [totalNanos, Elapsed.totalNanos, nanosPerSecond]
    omega
  | none =>
    simp only [hnanos] at rest
    obtain ⟨carried, hcarried, last⟩ := Option.bind_eq_some_iff.1 rest
    have carriedEq := eq_of_add64? hcarried
    simp only [Option.some.injEq] at last
    subst last
    simp only [totalNanos, Elapsed.totalNanos, nanosPerSecond] at *
    omega

end Tally

/-- The sum of a list of elapsed times, if its seconds fit into 64 bits. -/
def total? (times : List Elapsed) : Option Elapsed :=
  (times.foldlM Tally.add? .empty).bind Tally.close?

@[simp] theorem total?_nil : total? [] = some zero :=
  rfl

/-- The text with which the program breaks off at a sum that does not fit. -/
def overflowText : String := "overflow in iter::sum over durations"

/-- The sum of a list of elapsed times, or the text with which the program breaks off. -/
def total (times : List Elapsed) : Except String Elapsed :=
  match total? times with
  | some sum => .ok sum
  | none => .error overflowText

end Elapsed

end HostProvision
