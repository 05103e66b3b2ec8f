import HostProvision.Report
import Mathlib.Algebra.BigOperators.Group.List.Basic
import Mathlib.Algebra.GroupWithZero.Nat

/-! # The total of a report

The times of the steps are added in two counters, one for seconds and one for nanoseconds, and whole
seconds are carried from the second to the first as late as possible. The total shows nothing of
that: it is the exact sum, or the program breaks off because the exact sum does not fit.

* **One step of a sum**, `Tally.totalNanos_add?` and `Tally.overflows_of_add?`: it adds the exact
  number of nanoseconds, and it is refused only if the exact sum does not fit.
* **A whole sum**, `Elapsed.total?_eq_some_iff` and `Elapsed.total?_eq_none_iff`, by induction on
  the times that are added.
* **The total of a report is exact**, `Report.totalElapsed_exact`, whatever the order of the steps
  and however they are grouped. -/

namespace HostProvision

namespace Elapsed

/-- An exact number of nanoseconds whose whole seconds do not fit. -/
def Overflows (nanos : Nat) : Prop :=
  UInt64.size ≤ nanos / nanosPerSecond

/-- What is more than a number that does not fit does not fit either. -/
theorem Overflows.mono {nanos more : Nat} (overflows : Overflows nanos) (le : nanos ≤ more) :
    Overflows more :=
  Nat.le_trans overflows (Nat.div_le_div_right le)

/-- No elapsed time has a number of nanoseconds that does not fit. -/
theorem not_overflows_totalNanos (elapsed : Elapsed) : ¬Overflows elapsed.totalNanos := by
  have secs := elapsed.secs_lt
  have nanos := elapsed.nanos_lt
  simp only [Overflows, totalNanos, nanosPerSecond]
  omega

/-- The elapsed time of a number of nanoseconds has that number of nanoseconds. -/
theorem ofNanos?_eq_some_iff {nanos : Nat} {elapsed : Elapsed} :
    ofNanos? nanos = some elapsed ↔ elapsed.totalNanos = nanos := by
  constructor
  · intro fits
    rw [ofNanos?] at fits
    split at fits
    · obtain rfl := Option.some.inj fits
      exact Nat.div_add_mod' nanos nanosPerSecond
    · cases fits
  · rintro rfl
    exact ofNanos?_totalNanos elapsed

/-- There is no elapsed time of a number of nanoseconds exactly if it does not fit. -/
theorem ofNanos?_eq_none_iff {nanos : Nat} : ofNanos? nanos = none ↔ Overflows nanos := by
  rw [ofNanos?, dite_eq_right_iff, Overflows, ← Nat.not_lt]
  simp

/-- The seconds and nanoseconds of an exact number of nanoseconds. -/
theorem totalNanos_eq_iff {elapsed : Elapsed} {nanos : Nat} :
    elapsed.totalNanos = nanos ↔
      elapsed.secs = nanos / nanosPerSecond ∧ elapsed.nanos = nanos % nanosPerSecond := by
  have bound := elapsed.nanos_lt
  simp only [totalNanos, nanosPerSecond]
  omega

/-! ## Step by step -/

/-- The exact number of nanoseconds of some times together. -/
def sumNanos (times : List Elapsed) : Nat :=
  (times.map totalNanos).sum

@[simp] theorem sumNanos_nil : sumNanos [] = 0 := rfl

@[simp] theorem sumNanos_cons (elapsed : Elapsed) (times : List Elapsed) :
    sumNanos (elapsed :: times) = elapsed.totalNanos + sumNanos times := by
  rw [sumNanos, List.map_cons, List.sum_cons, sumNanos]

@[simp] theorem sumNanos_append (before after : List Elapsed) :
    sumNanos (before ++ after) = sumNanos before + sumNanos after := by
  rw [sumNanos, List.map_append, List.sum_append, sumNanos, sumNanos]

/-- The exact sum does not hang on the order. -/
theorem sumNanos_of_perm {times others : List Elapsed} (perm : times.Perm others) :
    sumNanos times = sumNanos others :=
  (perm.map totalNanos).sum_eq

/-- A sum of two numbers that is refused is too large for 64 bits. -/
theorem le_of_add64? {a b : Nat} (refused : add64? a b = none) : UInt64.size ≤ a + b := by
  simpa [add64?] using refused

namespace Tally

@[simp] theorem totalNanos_empty : empty.totalNanos = 0 := rfl

/-- **A step is refused only if the exact sum does not fit.** The seconds may be too many without
what is carried or with it; nanoseconds that are too many for their counter are carried. -/
theorem overflows_of_add? {tally : Tally} {elapsed : Elapsed}
    (refused : tally.add? elapsed = none) : Overflows (tally.totalNanos + elapsed.totalNanos) := by
  simp only [Overflows, totalNanos, Elapsed.totalNanos, nanosPerSecond]
  cases hsecs : add64? tally.secs elapsed.secs with
  | none =>
    have large := le_of_add64? hsecs
    omega
  | some secs =>
    have exact := eq_of_add64? hsecs
    cases hnanos : add64? tally.nanos elapsed.nanos with
    | some nanos => simp [add?, hsecs, hnanos] at refused
    | none =>
      cases hcarried : add64? secs (tally.nanos / nanosPerSecond) with
      | some carried => simp [add?, hsecs, hnanos, hcarried] at refused
      | none =>
        have large := le_of_add64? hcarried
        simp only [nanosPerSecond] at large
        omega

/-- The seconds that a sum under way comes to if it is closed. -/
def wholeSecs (tally : Tally) : Nat :=
  tally.secs + tally.nanos / nanosPerSecond

/-- Closing a sum carries what has not been carried. -/
theorem wholeSecs_eq (tally : Tally) : tally.wholeSecs = tally.totalNanos / nanosPerSecond := by
  simp only [wholeSecs, totalNanos, nanosPerSecond]
  omega

/-- A sum is closed by its exact number of nanoseconds. -/
theorem close?_eq (tally : Tally) : tally.close? = ofNanos? tally.totalNanos := by
  have nanos : tally.totalNanos % nanosPerSecond = tally.nanos % nanosPerSecond := by
    simp only [totalNanos, nanosPerSecond]
    omega
  have secs := tally.wholeSecs_eq
  simp only [wholeSecs] at secs
  simp only [close?, ofNanos?, secs, nanos]

/-- What a run of additions has come to is exact. -/
theorem totalNanos_foldlM {times : List Elapsed} {tally last : Tally}
    (added : times.foldlM add? tally = some last) :
    last.totalNanos = tally.totalNanos + sumNanos times := by
  induction times generalizing tally with
  | nil =>
    obtain rfl := Option.some.inj added
    rw [sumNanos_nil, Nat.add_zero]
  | cons elapsed times ih =>
    rw [List.foldlM_cons] at added
    obtain ⟨next, first, rest⟩ := Option.bind_eq_some_iff.mp added
    rw [ih rest, totalNanos_add? first, sumNanos_cons, Nat.add_assoc]

/-- **A run of additions is refused only if the exact sum does not fit.** -/
theorem overflows_of_foldlM {times : List Elapsed} {tally : Tally}
    (refused : times.foldlM add? tally = none) :
    Overflows (tally.totalNanos + sumNanos times) := by
  induction times generalizing tally with
  | nil => cases refused
  | cons elapsed times ih =>
    rw [List.foldlM_cons] at refused
    rw [sumNanos_cons, ← Nat.add_assoc]
    cases hadd : tally.add? elapsed with
    | none => exact (overflows_of_add? hadd).mono (Nat.le_add_right _ _)
    | some next =>
      have rest : times.foldlM add? next = none := by
        rw [hadd] at refused
        exact refused
      rw [← totalNanos_add? hadd]
      exact ih rest

end Tally

/-! ## Whole sums -/

/-- **A sum is the elapsed time of the exact sum**, if there is one. -/
theorem total?_eq (times : List Elapsed) : total? times = ofNanos? (sumNanos times) := by
  cases added : times.foldlM Tally.add? .empty with
  | none =>
    have overflows := Tally.overflows_of_foldlM added
    rw [Tally.totalNanos_empty, Nat.zero_add] at overflows
    rw [total?, added, ofNanos?_eq_none_iff.mpr overflows]
    rfl
  | some last =>
    have exact := Tally.totalNanos_foldlM added
    rw [Tally.totalNanos_empty, Nat.zero_add] at exact
    rw [total?, added, Option.bind_some, last.close?_eq, exact]

/-- The sum has the exact number of nanoseconds. -/
theorem total?_eq_some_iff {times : List Elapsed} {sum : Elapsed} :
    total? times = some sum ↔ sum.totalNanos = sumNanos times := by
  rw [total?_eq, ofNanos?_eq_some_iff]

/-- There is no sum exactly if the exact number of nanoseconds does not fit. -/
theorem total?_eq_none_iff {times : List Elapsed} :
    total? times = none ↔ Overflows (sumNanos times) := by
  rw [total?_eq, ofNanos?_eq_none_iff]

/-- The program goes on with the sum. -/
theorem total_eq_ok_iff {times : List Elapsed} {sum : Elapsed} :
    total times = .ok sum ↔ sum.totalNanos = sumNanos times := by
  rw [← total?_eq_some_iff, total]
  cases total? times <;> simp

/-- The program breaks off exactly if the sum does not fit, and always with the same text. -/
theorem total_eq_error_iff {times : List Elapsed} {text : String} :
    total times = .error text ↔ Overflows (sumNanos times) ∧ text = overflowText := by
  rw [← total?_eq_none_iff, total]
  cases total? times <;> simp [eq_comm]

/-- Times with the same exact sum have the same sum, or none of them has one. -/
theorem total_congr {times others : List Elapsed} (same : sumNanos times = sumNanos others) :
    total times = total others := by
  rw [total, total, total?_eq, total?_eq, same]

/-- **While a sum is formed nothing overflows.** The seconds that a part at the front comes to never
exceed those of the whole sum. -/
theorem exists_tally_of_total {before after : List Elapsed} {sum : Elapsed}
    (summed : total (before ++ after) = .ok sum) :
    ∃ tally : Tally, before.foldlM Tally.add? .empty = some tally ∧ tally.wholeSecs ≤ sum.secs := by
  have exact := total_eq_ok_iff.mp summed
  rw [sumNanos_append] at exact
  have le : sumNanos before ≤ sum.totalNanos := exact ▸ Nat.le_add_right _ _
  cases added : before.foldlM Tally.add? .empty with
  | none =>
    have overflows := Tally.overflows_of_foldlM added
    rw [Tally.totalNanos_empty, Nat.zero_add] at overflows
    exact absurd (overflows.mono le) sum.not_overflows_totalNanos
  | some tally =>
    have reached := Tally.totalNanos_foldlM added
    rw [Tally.totalNanos_empty, Nat.zero_add] at reached
    have secs : sum.secs = sum.totalNanos / nanosPerSecond :=
      (totalNanos_eq_iff.mp (Eq.refl sum.totalNanos)).1
    refine ⟨tally, rfl, ?_⟩
    rw [tally.wholeSecs_eq, reached, secs]
    exact Nat.div_le_div_right le

/-- **The sum of sums is the sum.** Of several groups of times, one that has no sum of its own
leaves all of them without one. -/
theorem total_of_groups (groups : List (List Elapsed)) :
    (groups.mapM total >>= total) = total groups.flatten := by
  -- A sum for each group may stand for the group wherever sums are formed.
  suffices general : ∀ before : List Elapsed,
      (groups.mapM total >>= fun sums => total (before ++ sums)) =
        total (before ++ groups.flatten) from general []
  induction groups with
  | nil => exact fun before => rfl
  | cons group groups ih =>
    intro before
    rw [List.mapM_cons, List.flatten_cons, bind_assoc]
    cases summed : total group with
    | error text =>
      obtain ⟨overflows, rfl⟩ := total_eq_error_iff.mp summed
      refine (total_eq_error_iff.mpr ⟨overflows.mono ?_, rfl⟩).symm
      rw [sumNanos_append, sumNanos_append]
      omega
    | ok sum =>
      have exact := total_eq_ok_iff.mp summed
      have onward : total (before ++ (group ++ groups.flatten)) =
          total (before ++ [sum] ++ groups.flatten) := by
        refine total_congr ?_
        simp only [sumNanos_append, sumNanos_cons, sumNanos_nil, exact]
        omega
      rw [onward, ← ih (before ++ [sum])]
      simp only [bind_assoc, pure_bind, List.append_assoc, List.singleton_append]
      rfl

end Elapsed

open Elapsed

/-- **The total of a report is exact.** Let `nanos` be the sum of the nanoseconds of all steps. The
total has that many nanoseconds if its whole seconds fit into 64 bits, and otherwise the program
breaks off. Neither the order of the steps nor a division into groups that are summed first matters,
and while steps are added up to a total the seconds never exceed those of the total. -/
theorem Report.totalElapsed_exact (report : Report) :
    let nanos :=
      (report.steps.map fun step => step.elapsed.secs * 1000000000 + step.elapsed.nanos).sum
    (nanos / 1000000000 < 2 ^ 64 ↔ ∃ total, report.totalElapsed = .ok total) ∧
    (∀ total : Elapsed, report.totalElapsed = .ok total ↔
      total.secs = nanos / 1000000000 ∧ total.nanos = nanos % 1000000000) ∧
    (2 ^ 64 ≤ nanos / 1000000000 ↔
      report.totalElapsed = .error "overflow in iter::sum over durations") ∧
    (∀ steps : List StepRecord, steps.Perm report.steps →
      (⟨steps, report.pathUpdate⟩ : Report).totalElapsed = report.totalElapsed) ∧
    (∀ groups : List (List StepRecord), groups.flatten = report.steps →
      (groups.mapM fun steps => (⟨steps, report.pathUpdate⟩ : Report).totalElapsed) >>=
        Elapsed.total = report.totalElapsed) ∧
    ∀ (before after : List StepRecord) (total : Elapsed), before ++ after = report.steps →
      report.totalElapsed = .ok total →
        ∃ tally : Tally, (before.map StepRecord.elapsed).foldlM Tally.add? .empty = some tally ∧
          tally.secs + tally.nanos / 1000000000 ≤ total.secs := by
  intro nanos
  have exact : nanos = sumNanos (report.steps.map StepRecord.elapsed) := by
    rw [sumNanos, List.map_map]
    rfl
  have ok_iff (total : Elapsed) : report.totalElapsed = .ok total ↔
      total.secs = nanos / 1000000000 ∧ total.nanos = nanos % 1000000000 := by
    rw [totalElapsed, total_eq_ok_iff, ← exact, totalNanos_eq_iff]
  have error_iff (text : String) : report.totalElapsed = .error text ↔
      2 ^ 64 ≤ nanos / 1000000000 ∧ text = overflowText := by
    rw [totalElapsed, total_eq_error_iff, ← exact]
    rfl
  refine ⟨?_, ok_iff, ?_, fun steps perm => ?_, fun groups joined => ?_, ?_⟩
  · constructor
    · intro fits
      cases summed : report.totalElapsed with
      | ok total => exact ⟨total, rfl⟩
      | error text => exact absurd ((error_iff text).mp summed).1 (Nat.not_le_of_lt fits)
    · rintro ⟨total, summed⟩
      rw [← ((ok_iff total).mp summed).1]
      exact total.secs_lt
  · rw [error_iff]
    exact (and_iff_left rfl).symm
  · exact total_congr (sumNanos_of_perm (perm.map StepRecord.elapsed))
  · have sums := total_of_groups (groups.map fun steps => steps.map StepRecord.elapsed)
    rw [← List.map_flatten, joined, List.mapM_map] at sums
    exact sums
  · intro before after total joined summed
    rw [totalElapsed, ← joined, List.map_append] at summed
    exact exists_tally_of_total summed

/-- Steps that together take the longest time that can be told: no second is left over, and the last
nanosecond just fits. -/
theorem Report.totalElapsed_exact_longest :
    let first : StepRecord := ⟨"brew update", 18446744073709551614, 999999999, by decide, by decide⟩
    let second : StepRecord := ⟨"ensure cmake", 0, 999999999, by decide, by decide⟩
    let third : StepRecord := ⟨"install python3", 0, 1, by decide, by decide⟩
    let report : Report := ⟨[first, second, third], ⟨[]⟩⟩
    report.totalElapsed = .ok .longest ∧
      ([third, first, second].Perm report.steps ∧
        (⟨[third, first, second], ⟨[]⟩⟩ : Report).totalElapsed = .ok .longest) ∧
      ([[first, second], [third]].flatten = report.steps ∧
        ([[first, second], [third]].mapM fun steps => (⟨steps, ⟨[]⟩⟩ : Report).totalElapsed) >>=
          Elapsed.total = .ok .longest) ∧
      [first, second] ++ [third] = report.steps ∧
        ∃ tally : Tally, [first.elapsed, second.elapsed].foldlM Tally.add? .empty = some tally ∧
          tally.secs + tally.nanos / 1000000000 ≤ Elapsed.longest.secs := by
  intro first second third report
  obtain ⟨-, ok_iff, -, perm, groups, steps⟩ := Report.totalElapsed_exact report
  have total : report.totalElapsed = .ok .longest := (ok_iff .longest).mpr (by decide)
  have same : [third, first, second].Perm report.steps := by decide
  exact ⟨total, ⟨same, (perm _ same).trans total⟩, ⟨rfl, (groups _ rfl).trans total⟩, rfl,
    steps [first, second] [third] .longest rfl total⟩

end HostProvision
