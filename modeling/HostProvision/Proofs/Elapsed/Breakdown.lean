import HostProvision.Report
import Mathlib.Algebra.Group.Nat.Defs
import Mathlib.Data.List.Basic

/-! # Elapsed times read back from words

A step is shown with the time that it took, to the millisecond. The words say which time that was:
years and months do not go evenly into one another, and yet every text stands for one time only.

* **`Elapsed.Breakdown`** is a time taken apart into years, months and so on, each part below the
  next longer unit. Taking apart and adding up are inverse, `Breakdown.total_ofMillis` and
  `Breakdown.ofMillis_total`.
* **A text is read in one way**, `Breakdown.text_inj`: the words are cut at the blanks, and each is
  a number with the name of its unit.
* **A shown step loses nothing but fractions of a millisecond**, `StepRecord.render_lossless`, as
  long as the milliseconds are fewer than `2^64`; beyond that they are shown modulo `2^64`. -/

namespace HostProvision

namespace Elapsed

/-! ## Times taken apart -/

/-- A time taken apart. No part is as long as the next longer unit, and neither is what stands
behind the years or the months. -/
@[ext] structure Breakdown where
  /-- Years of 31557600 seconds. -/
  years : Nat
  /-- Months of 2630016 seconds. -/
  months : Nat
  /-- Days of 86400 seconds. -/
  days : Nat
  /-- Hours. -/
  hours : Nat
  /-- Minutes. -/
  minutes : Nat
  /-- Seconds. -/
  seconds : Nat
  /-- Milliseconds. -/
  millis : Nat
  months_lt : months < 12
  days_lt : days < 31
  hours_lt : hours < 24
  minutes_lt : minutes < 60
  seconds_lt : seconds < 60
  millis_lt : millis < 1000
  /-- There is no month left among the days. -/
  behind_months : days * 86400000 + hours * 3600000 + minutes * 60000 + seconds * 1000 + millis <
    2630016000
  /-- There is no year left among the months. -/
  behind_years : months * 2630016000 + (days * 86400000 + hours * 3600000 + minutes * 60000 +
    seconds * 1000 + millis) < 31557600000
  deriving DecidableEq, Repr

/-- A number with the name of what is counted, in the singular for one, and nothing for none. -/
def counted (count : Nat) (one several : String) : List String :=
  if count = 0 then [] else [toString count ++ if count = 1 then one else several]

namespace Breakdown

/-- The milliseconds that the parts add up to. -/
def total (parts : Breakdown) : Nat :=
  parts.years * 31557600000 + parts.months * 2630016000 + parts.days * 86400000 +
    parts.hours * 3600000 + parts.minutes * 60000 + parts.seconds * 1000 + parts.millis

/-- The words for the parts that are not zero, the longest unit first. -/
def words (parts : Breakdown) : List String :=
  counted parts.years "year" "years" ++ (counted parts.months "month" "months" ++
    (counted parts.days "day" "days" ++ (counted parts.hours "h" "h" ++
      (counted parts.minutes "m" "m" ++ (counted parts.seconds "s" "s" ++
        counted parts.millis "ms" "ms")))))

/-- A time in words: no time at all is no seconds. -/
def text (parts : Breakdown) : String :=
  if parts.total = 0 then "0s" else " ".intercalate parts.words

/-- A number of milliseconds taken apart. -/
def ofMillis (millis : Nat) : Breakdown where
  years := millis / 31557600000
  months := millis % 31557600000 / 2630016000
  days := millis % 31557600000 % 2630016000 / 86400000
  hours := millis % 31557600000 % 2630016000 % 86400000 / 3600000
  minutes := millis % 31557600000 % 2630016000 % 86400000 % 3600000 / 60000
  seconds := millis % 31557600000 % 2630016000 % 86400000 % 3600000 % 60000 / 1000
  millis := millis % 31557600000 % 2630016000 % 86400000 % 3600000 % 60000 % 1000
  months_lt := by omega
  days_lt := by omega
  hours_lt := by omega
  minutes_lt := by omega
  seconds_lt := by omega
  millis_lt := by omega
  behind_months := by omega
  behind_years := by omega

/-- Taking apart loses nothing. -/
@[simp] theorem total_ofMillis (millis : Nat) : (ofMillis millis).total = millis := by
  simp only [total, ofMillis]
  omega

/-- There is one way to take a time apart. -/
@[simp] theorem ofMillis_total (parts : Breakdown) : ofMillis parts.total = parts := by
  obtain ⟨years, months, days, hours, minutes, seconds, millis, _, _, _, _, _, _, days_rest,
    months_rest⟩ := parts
  -- The two units that the next shorter one does not go into are taken off first.
  have behind_years : (years * 31557600000 + months * 2630016000 + days * 86400000 +
      hours * 3600000 + minutes * 60000 + seconds * 1000 + millis) % 31557600000 =
      months * 2630016000 + (days * 86400000 + hours * 3600000 + minutes * 60000 + seconds * 1000 +
        millis) := by
    omega
  have behind_months : (months * 2630016000 + (days * 86400000 + hours * 3600000 +
      minutes * 60000 + seconds * 1000 + millis)) % 2630016000 =
      days * 86400000 + hours * 3600000 + minutes * 60000 + seconds * 1000 + millis := by
    rw [Nat.mul_add_mod_self_right, Nat.mod_eq_of_lt days_rest]
  simp only [ofMillis, total, behind_years, behind_months, mk.injEq]
  omega

/-- A time is told by its milliseconds. -/
theorem total_inj {parts other : Breakdown} : parts.total = other.total ↔ parts = other := by
  refine ⟨fun same => ?_, congrArg total⟩
  rw [← ofMillis_total parts, same, ofMillis_total]

end Breakdown

/-! ## The words -/

/-- The words for counted units, without those that are counted as none. -/
def shownParts (parts : List (Nat × TimeUnit)) : List String :=
  (parts.filter fun part => part.1 ≠ 0).map fun (count, unit) => partText count unit

/-- A unit that is counted as none is not shown. -/
@[simp] theorem shownParts_zero_cons (unit : TimeUnit) (parts : List (Nat × TimeUnit)) :
    shownParts ((0, unit) :: parts) = shownParts parts := by
  simp [shownParts]

/-- A unit that is counted is shown in front of the others. -/
theorem shownParts_cons_of_ne_zero {count : Nat} (some : count ≠ 0) (unit : TimeUnit)
    (parts : List (Nat × TimeUnit)) :
    shownParts ((count, unit) :: parts) = partText count unit :: shownParts parts := by
  simp [shownParts, some]

/-- The words for counted units are those for the first of them and then those for the others. -/
theorem shownParts_cons (count : Nat) (unit : TimeUnit) (parts : List (Nat × TimeUnit)) :
    shownParts ((count, unit) :: parts) =
      counted count unit.singular unit.plural ++ shownParts parts := by
  by_cases none : count = 0
  · simp [counted, none]
  · simp [shownParts_cons_of_ne_zero, counted, partText, none]

/-- What is shown is a number of one of the units that is not zero. -/
theorem mem_shownParts_iff {text : String} {parts : List (Nat × TimeUnit)} :
    text ∈ shownParts parts ↔ ∃ count unit, (count, unit) ∈ parts ∧ count ≠ 0 ∧
      partText count unit = text := by
  simp [shownParts, and_assoc]

namespace Breakdown

/-- The parts with their units. -/
def counts (parts : Breakdown) : List (Nat × TimeUnit) :=
  [parts.years, parts.months, parts.days, parts.hours, parts.minutes, parts.seconds,
    parts.millis].zip timeUnits

/-- The words of a time are those for its units. -/
theorem words_eq (parts : Breakdown) : parts.words = shownParts parts.counts := by
  simp only [counts, timeUnits, List.zip_cons_cons, shownParts_cons]
  simp [words, shownParts]

/-- Taking apart counts how often each unit goes into what the longer ones leave. -/
theorem counts_ofMillis (millis : Nat) : (ofMillis millis).counts = split timeUnits millis := by
  simp [counts, ofMillis, timeUnits, split]

end Breakdown

/-- **Milliseconds are shown as the words of their parts.** -/
theorem millisText_eq (millis : Nat) : millisText millis = (Breakdown.ofMillis millis).text := by
  have words : (Breakdown.ofMillis millis).words =
      (parts millis).map fun (count, unit) => partText count unit := by
    rw [Breakdown.words_eq, Breakdown.counts_ofMillis]
    rfl
  rw [Breakdown.text, Breakdown.total_ofMillis, words, millisText]
  have adds := partsMillis_parts millis
  cases shown : parts millis with
  | nil =>
    have none : millis = 0 := by rw [← adds, shown, partsMillis]
    rw [if_pos none]
  | cons part rest =>
    have some : millis ≠ 0 := by
      rintro rfl
      have zero : parts 0 = [] := by decide
      rw [zero] at shown
      cases shown
    rw [if_neg some]

/-! ## Reading the words -/

/-- The name of a unit begins with a letter. -/
theorem takeWhile_isDigit_name {unit : TimeUnit} (among : unit ∈ timeUnits) (count : Nat) :
    (if count = 1 then unit.singular else unit.plural).toList.takeWhile Char.isDigit = [] := by
  have names : ∀ unit ∈ timeUnits, unit.singular.toList.takeWhile Char.isDigit = [] ∧
      unit.plural.toList.takeWhile Char.isDigit = [] := by decide
  split
  · exact (names unit among).1
  · exact (names unit among).2

/-- A number of units is told by its digits, and then the unit by its name. -/
theorem partText_inj {count other : Nat} {unit another : TimeUnit} (among : unit ∈ timeUnits)
    (amongToo : another ∈ timeUnits) :
    partText count unit = partText other another ↔ count = other ∧ unit = another := by
  refine ⟨fun same => ?_, fun ⟨first, second⟩ => first ▸ second ▸ rfl⟩
  have chars := congrArg String.toList same
  simp only [partText, String.toList_append, Nat.toString_eq_repr, Nat.toList_repr] at chars
  have digits (number : Nat) : ∀ c ∈ Nat.toDigits 10 number, c.isDigit = true :=
    fun _ mem => Nat.isDigit_of_mem_toDigits (by decide) (by decide) mem
  have numbers := congrArg (List.takeWhile Char.isDigit) chars
  rw [List.takeWhile_append_of_pos (digits count), List.takeWhile_append_of_pos (digits other),
    takeWhile_isDigit_name among, takeWhile_isDigit_name amongToo, List.append_nil,
    List.append_nil] at numbers
  have counts : count = other := by
    simpa using congrArg (Nat.ofDigitChars 10 · 0) numbers
  subst counts
  have names := List.append_cancel_left chars
  have unlike : ∀ unit ∈ timeUnits, ∀ another ∈ timeUnits,
      (unit.singular = another.singular → unit = another) ∧
        (unit.plural = another.plural → unit = another) := by decide
  rw [String.toList_inj] at names
  split at names
  · exact ⟨rfl, (unlike unit among another amongToo).1 names⟩
  · exact ⟨rfl, (unlike unit among another amongToo).2 names⟩

/-- **Words are read in one way.** Counts of the same units, each unit at most once, are shown by
the same words only if they are the same. -/
theorem eq_of_shownParts_eq {first second : List (Nat × TimeUnit)}
    (units : first.map Prod.snd = second.map Prod.snd)
    (known : ∀ unit ∈ first.map Prod.snd, unit ∈ timeUnits) (once : (first.map Prod.snd).Nodup)
    (same : shownParts first = shownParts second) : first = second := by
  induction first generalizing second with
  | nil => exact (List.map_eq_nil_iff.mp units.symm).symm
  | cons part first ih =>
    obtain ⟨count, unit⟩ := part
    rcases second with _ | ⟨⟨other, another⟩, second⟩
    · cases units
    obtain ⟨rfl, alike⟩ : unit = another ∧ first.map Prod.snd = second.map Prod.snd :=
      List.cons.inj units
    obtain ⟨among, others⟩ := List.forall_mem_cons.mp known
    obtain ⟨apart, distinct⟩ := List.nodup_cons.mp once
    -- The words for the other units do not tell of this one.
    have missing {number : Nat} {parts : List (Nat × TimeUnit)}
        (same : parts.map Prod.snd = first.map Prod.snd) :
        partText number unit ∉ shownParts parts := by
      rw [mem_shownParts_iff]
      rintro ⟨_, unit', mem, -, told⟩
      have mem : unit' ∈ first.map Prod.snd := same ▸ List.mem_map_of_mem mem
      exact apart (((partText_inj (others _ mem) among).mp told).2 ▸ mem)
    by_cases none : count = 0 <;> by_cases noneToo : other = 0
    · subst none noneToo
      rw [shownParts_zero_cons, shownParts_zero_cons] at same
      rw [ih alike others distinct same]
    · subst none
      rw [shownParts_zero_cons, shownParts_cons_of_ne_zero noneToo] at same
      exact absurd (same ▸ List.mem_cons_self) (missing rfl)
    · subst noneToo
      rw [shownParts_zero_cons, shownParts_cons_of_ne_zero none] at same
      exact absurd (same ▸ List.mem_cons_self) (missing alike.symm)
    · rw [shownParts_cons_of_ne_zero none, shownParts_cons_of_ne_zero noneToo] at same
      obtain ⟨head, tail⟩ := List.cons.inj same
      rw [((partText_inj among among).mp head).1, ih alike others distinct tail]

namespace Breakdown

/-- The units of a time are all units. -/
theorem map_snd_counts (parts : Breakdown) : parts.counts.map Prod.snd = timeUnits := rfl

/-- The words of a time tell its parts. -/
theorem words_inj {parts other : Breakdown} : parts.words = other.words ↔ parts = other := by
  refine ⟨fun same => ?_, congrArg words⟩
  rw [words_eq, words_eq] at same
  have counts : parts.counts = other.counts := by
    refine eq_of_shownParts_eq rfl ?_ ?_ same
    · exact fun unit mem => mem
    · rw [map_snd_counts]
      decide
  simp only [Breakdown.counts, timeUnits, List.zip_cons_cons, List.cons.injEq, Prod.mk.injEq,
    and_true] at counts
  obtain ⟨years, months, days, hours, minutes, seconds, millis⟩ := counts
  exact Breakdown.ext years months days hours minutes seconds millis

/-- The words between the blanks of a time in words. -/
def spelled (parts : Breakdown) : List String :=
  if parts.total = 0 then ["0s"] else parts.words

/-- A time in words are its words with blanks between them. -/
theorem text_eq (parts : Breakdown) : parts.text = " ".intercalate parts.spelled := by
  rw [text, spelled]
  split
  · rfl
  · rfl

/-- Every word is a number of some unit. -/
theorem exists_of_mem_spelled {parts : Breakdown} {word : String} (mem : word ∈ parts.spelled) :
    ∃ count, ∃ unit ∈ timeUnits, word = partText count unit := by
  rw [spelled] at mem
  split at mem
  · exact ⟨0, ⟨1000, "s", "s"⟩, by decide, List.mem_singleton.mp mem⟩
  · rw [words_eq, mem_shownParts_iff] at mem
    obtain ⟨count, unit, mem, -, rfl⟩ := mem
    exact ⟨count, unit, parts.map_snd_counts ▸ List.mem_map_of_mem mem, rfl⟩

/-- There are words for every time but none at all. -/
theorem words_eq_nil_iff {parts : Breakdown} : parts.words = [] ↔ parts.total = 0 := by
  have none : (ofMillis 0).words = [] := by decide
  rw [← none, words_inj, ← total_inj, total_ofMillis]

/-- No part is said to be zero. -/
theorem zero_notMem_words (parts : Breakdown) : "0s" ∉ parts.words := by
  have zero : partText 0 ⟨1000, "s", "s"⟩ = "0s" := by decide
  rw [words_eq, mem_shownParts_iff, ← zero]
  rintro ⟨count, unit, mem, some, same⟩
  have among : unit ∈ timeUnits := parts.map_snd_counts ▸ List.mem_map_of_mem mem
  exact some ((partText_inj among (by decide)).mp same).1

/-- What is spelled tells the parts. -/
theorem spelled_inj {parts other : Breakdown} (same : parts.spelled = other.spelled) :
    parts = other := by
  rw [spelled, spelled] at same
  split at same <;> split at same
  · next none noneToo => exact total_inj.mp (none.trans noneToo.symm)
  · exact absurd (same ▸ List.mem_cons_self) other.zero_notMem_words
  · exact absurd (same ▸ List.mem_cons_self) parts.zero_notMem_words
  · exact words_inj.mp same

/-- **A text is cut into its words at the blanks.** -/
theorem splitOn_text (parts : Breakdown) :
    parts.text.toList.splitOn ' ' = parts.spelled.map String.toList := by
  have some : parts.spelled ≠ [] := by
    rw [spelled]
    split
    · exact List.cons_ne_nil _ _
    · next more => exact mt words_eq_nil_iff.mp more
  rw [text_eq, String.toList_intercalate]
  refine List.splitOn_intercalate ' ' ?_ (mt List.map_eq_nil_iff.mp some)
  intro chars mem
  obtain ⟨word, among, rfl⟩ := List.mem_map.mp mem
  obtain ⟨count, unit, known, rfl⟩ := exists_of_mem_spelled among
  exact fun blank => absurd (isAlphanum_of_mem_partText known blank) (by decide)

/-- **A text is read in one way.** -/
theorem text_inj {parts other : Breakdown} : parts.text = other.text ↔ parts = other := by
  refine ⟨fun same => spelled_inj ?_, congrArg text⟩
  have words := congrArg (fun text => text.toList.splitOn ' ') same
  simp only [splitOn_text] at words
  exact List.map_injective_iff.mpr (fun _ _ => String.toList_inj.mp) words

/-- No time at all, and no other, is shown as no seconds. -/
theorem text_eq_zero_iff {parts : Breakdown} : parts.text = "0s" ↔ parts.total = 0 := by
  have zero : (ofMillis 0).text = "0s" := by decide
  rw [← zero, text_inj, ← total_inj, total_ofMillis]

end Breakdown

/-- The time that is shown for an elapsed time. -/
theorem render_eq (elapsed : Elapsed) :
    elapsed.render = (Breakdown.ofMillis (elapsed.totalNanos / 1000000 % 2 ^ 64)).text := by
  rw [render, millisText_eq, millis_eq]
  rfl

end Elapsed

open Elapsed

/-- **A shown step loses nothing but fractions of a millisecond.** A step is shown by its name and
by the words of a time, which is that of its whole milliseconds modulo `2^64`, and therefore that of
its whole milliseconds as long as they are fewer. The words stand for no other time, so steps of one
name are shown alike exactly if those milliseconds agree. -/
theorem StepRecord.render_lossless (record : StepRecord) :
    let millis := record.elapsed.totalNanos / 1000000
    (∃ parts : Breakdown,
      record.render = record.name ++ " (" ++ parts.text ++ ")" ∧
      parts.total = millis % 2 ^ 64 ∧
      (parts.total = millis ↔ millis < 2 ^ 64) ∧
      (parts.text = "0s" ↔ millis % 2 ^ 64 = 0) ∧
      ∀ other : Breakdown, other.text = parts.text ↔ other = parts) ∧
    ∀ elapsed : Elapsed, (StepRecord.mk record.name elapsed).render = record.render ↔
      elapsed.totalNanos / 1000000 % 2 ^ 64 = millis % 2 ^ 64 := by
  intro millis
  refine ⟨⟨.ofMillis (millis % 2 ^ 64), ?_, Breakdown.total_ofMillis _, ?_, ?_, fun other => ?_⟩,
    fun elapsed => ?_⟩
  · rw [render, render_eq]
  · rw [Breakdown.total_ofMillis, Nat.mod_eq_iff_lt (by decide)]
  · rw [Breakdown.text_eq_zero_iff, Breakdown.total_ofMillis]
  · exact Breakdown.text_inj
  · rw [render, render, String.append_left_inj, String.append_right_inj, render_eq, render_eq,
      Breakdown.text_inj, ← Breakdown.total_inj, Breakdown.total_ofMillis, Breakdown.total_ofMillis]

example : (StepRecord.mk "brew update" ⟨31557601, 2999999, by decide, by decide⟩).render =
    "brew update (1year 1s 2ms)" := by decide +kernel

end HostProvision
