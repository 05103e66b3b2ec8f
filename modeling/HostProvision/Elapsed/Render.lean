import HostProvision.Elapsed

/-! # Elapsed time in words

A length of time is shown to the millisecond as its non-zero parts in descending order, from years
of 31557600 seconds and months of 2630016 seconds down to milliseconds: `1year 2months 3h 5ms`.
Years, months and days are written out, in the plural from two on; the shorter units are
abbreviated. No time at all is `0s`. The count of milliseconds is taken modulo `2^64`. -/

namespace HostProvision

namespace Elapsed

/-- A unit of time, with its length in milliseconds and its names for one and for several. -/
structure TimeUnit where
  /-- The length in milliseconds. -/
  millis : Nat
  /-- The name after the number one. -/
  singular : String
  /-- The name after any other number. -/
  plural : String
  deriving DecidableEq, Repr

/-- The units in which a length of time is shown, the longest first. -/
def timeUnits : List TimeUnit :=
  [⟨31557600000, "year", "years"⟩, ⟨2630016000, "month", "months"⟩, ⟨86400000, "day", "days"⟩,
   ⟨3600000, "h", "h"⟩, ⟨60000, "m", "m"⟩, ⟨1000, "s", "s"⟩, ⟨1, "ms", "ms"⟩]

/-- How often each unit goes into a number of milliseconds after the longer units have been taken
out. -/
def split : List TimeUnit → Nat → List (Nat × TimeUnit)
  | [], _ => []
  | unit :: shorter, millis => (millis / unit.millis, unit) :: split shorter (millis % unit.millis)

/-- A number of units in words. -/
def partText (count : Nat) (unit : TimeUnit) : String :=
  toString count ++ if count = 1 then unit.singular else unit.plural

/-- The non-zero parts of a number of milliseconds. -/
def parts (millis : Nat) : List (Nat × TimeUnit) :=
  (split timeUnits millis).filter fun part => part.1 ≠ 0

/-- A number of milliseconds in words. -/
def millisText (millis : Nat) : String :=
  match parts millis with
  | [] => "0s"
  | shown => " ".intercalate (shown.map fun (count, unit) => partText count unit)

/-- An elapsed time in words. -/
def render (elapsed : Elapsed) : String :=
  millisText (elapsed.millis % UInt64.size)

/-- The number of milliseconds that a list of parts stands for. -/
def partsMillis : List (Nat × TimeUnit) → Nat
  | [] => 0
  | (count, unit) :: rest => count * unit.millis + partsMillis rest

/-- Splitting off longer units loses nothing but what is shorter than the last unit. -/
theorem partsMillis_split (units : List TimeUnit) (millis : Nat)
    (last : units.getLast?.map TimeUnit.millis = some 1) :
    partsMillis (split units millis) = millis := by
  induction units generalizing millis with
  | nil => simp at last
  | cons unit shorter ih =>
    cases shorter with
    | nil =>
      simp at last
      simp [split, partsMillis, last]
    | cons next rest =>
      have tail := ih (millis % unit.millis) (by simpa [List.getLast?_cons_cons] using last)
      rw [split, partsMillis, tail]
      exact Nat.div_add_mod' millis unit.millis

/-- Leaving out zero counts does not change what the parts stand for. -/
theorem partsMillis_filter (parts : List (Nat × TimeUnit)) :
    partsMillis (parts.filter fun part => part.1 ≠ 0) = partsMillis parts := by
  induction parts with
  | nil => rfl
  | cons part rest ih =>
    by_cases zero : part.1 = 0 <;> simp_all [partsMillis]

/-- The shown parts add up to the shown number of milliseconds. -/
theorem partsMillis_parts (millis : Nat) : partsMillis (parts millis) = millis := by
  rw [parts, partsMillis_filter]
  exact partsMillis_split timeUnits millis rfl

/-- The units that a number of milliseconds is split into are among those given. -/
theorem mem_of_mem_split {part : Nat × TimeUnit} {units : List TimeUnit} {millis : Nat}
    (mem : part ∈ split units millis) : part.2 ∈ units := by
  induction units generalizing millis with
  | nil => cases mem
  | cons unit shorter ih =>
    rcases List.mem_cons.mp mem with rfl | later
    · exact List.mem_cons_self
    · exact List.mem_cons_of_mem _ (ih later)

/-- A character between or in joined texts is a blank or in one of them. -/
theorem mem_intercalate {c : Char} {texts : List String}
    (mem : c ∈ (" ".intercalate texts).toList) : c = ' ' ∨ ∃ text ∈ texts, c ∈ text.toList := by
  induction texts with
  | nil => simp at mem
  | cons text rest ih =>
    cases rest with
    | nil => exact .inr ⟨text, List.mem_cons_self, by simpa using mem⟩
    | cons next rest =>
      rw [String.intercalate_cons_cons, String.toList_append, String.toList_append,
        List.mem_append, List.mem_append] at mem
      rcases mem with (own | blank) | later
      · exact .inr ⟨text, List.mem_cons_self, own⟩
      · exact .inl (by simpa using blank)
      · rcases ih later with blank | ⟨other, among, inside⟩
        · exact .inl blank
        · exact .inr ⟨other, List.mem_cons_of_mem _ among, inside⟩

/-- A number of units is shown in digits and letters. -/
theorem isAlphanum_of_mem_partText {count : Nat} {unit : TimeUnit} (among : unit ∈ timeUnits)
    {c : Char} (mem : c ∈ (partText count unit).toList) : c.isAlphanum := by
  have names : (timeUnits.all fun unit => unit.singular.toList.all Char.isAlphanum &&
      unit.plural.toList.all Char.isAlphanum) = true := by decide +kernel
  obtain ⟨singular, plural⟩ := Bool.and_eq_true_iff.mp (List.all_eq_true.mp names unit among)
  rw [partText, String.toList_append, List.mem_append] at mem
  rcases mem with digit | letter
  · have decimal : c ∈ Nat.toDigits 10 count := by simpa using digit
    simp [Char.isAlphanum, Nat.isDigit_of_mem_toDigits (by decide) (by decide) decimal]
  · by_cases one : count = 1
    · rw [if_pos one] at letter
      exact List.all_eq_true.mp singular c letter
    · rw [if_neg one] at letter
      exact List.all_eq_true.mp plural c letter

/-- An elapsed time is shown in digits, letters and blanks. -/
theorem isAlphanum_of_mem_render {elapsed : Elapsed} {c : Char} (mem : c ∈ elapsed.render.toList) :
    c = ' ' ∨ c.isAlphanum := by
  rw [render, millisText] at mem
  cases shown : parts (elapsed.millis % UInt64.size) with
  | nil =>
    have zero : "0s".toList.all Char.isAlphanum = true := by decide +kernel
    rw [shown] at mem
    exact .inr (List.all_eq_true.mp zero c mem)
  | cons part rest =>
    rw [shown] at mem
    refine (mem_intercalate mem).imp_right ?_
    rintro ⟨text, among, inside⟩
    obtain ⟨⟨count, unit⟩, partMem, rfl⟩ := List.mem_map.mp among
    have known : unit ∈ timeUnits := by
      rw [← shown, parts] at partMem
      exact mem_of_mem_split (List.mem_filter.mp partMem).1
    exact isAlphanum_of_mem_partText known inside

example : millisText 0 = "0s" := by decide +kernel
example : millisText 1500 = "1s 500ms" := by decide +kernel
example : millisText (31557600000 + 2 * 2630016000 + 3600000) = "1year 2months 1h" := by
  decide +kernel

end Elapsed

end HostProvision
