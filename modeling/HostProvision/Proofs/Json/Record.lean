import HostProvision.Json.Record
import HostProvision.Proofs.Json.Value
import Mathlib.Data.List.Forall2

/-! # Written numbers, lists and records are read back

A written record is an object of its fields in order, and since no name is declared twice, each
field is found again as the only member of its name.

* `Value.spellsNumber_toDigits` and `Value.nat?_ofNat` read a number back, whatever its size.
* **A written record is read back**, `Value.fields?_ofFields` and `Value.exactFields?_ofFields`, as
  its values in declaration order. -/

namespace HostProvision

namespace Json

namespace Value

/-! ### Numbers -/

/-- The digits of a positive number begin with one that is not zero. -/
theorem exists_toDigits_of_pos {n : Nat} (positive : 0 < n) :
    ∃ c rest, Nat.toDigits 10 n = c :: rest ∧ c ≠ '0' := by
  induction n using Nat.strongRecOn with
  | ind n ih =>
    by_cases small : n < 10
    · have all : ∀ digit : Fin 10, 0 < digit.val → Nat.digitChar digit ≠ '0' := by decide
      exact ⟨Nat.digitChar n, [], Nat.toDigits_of_lt_base small, all ⟨n, small⟩ positive⟩
    · obtain ⟨c, rest, digits, begins⟩ := ih (n / 10) (by omega) (by omega)
      refine ⟨c, rest ++ [Nat.digitChar (n % 10)], ?_, begins⟩
      rw [Nat.toDigits_of_base_le (by decide) (by omega), digits, List.cons_append]

/-- A number is written with digits only. -/
theorem allDigits_toDigits (n : Nat) : AllDigits (Nat.toDigits 10 n) :=
  fun _ mem => Nat.isDigit_of_mem_toDigits (by decide) (by decide) mem

/-- The digits of a number spell one. -/
theorem spellsNumber_toDigits (n : Nat) : SpellsNumber (Nat.toDigits 10 n) := by
  have whole : WholePart (Nat.toDigits 10 n) := by
    rcases Nat.eq_zero_or_pos n with rfl | positive
    · exact .zero
    · obtain ⟨c, rest, digits, begins⟩ := exists_toDigits_of_pos positive
      have all := allDigits_toDigits n
      rw [digits] at all ⊢
      obtain ⟨digit, all⟩ := List.forall_mem_cons.mp all
      exact .other digit begins all
  exact .inl ⟨_, [], (List.append_nil _).symm, whole, [], [], rfl, .none, .none⟩

/-- A written number is read back. -/
@[simp] theorem nat?_ofNat (n : Nat) : (ofNat n).nat? = some n := by
  have digits : (Nat.toDigits 10 n).all Char.isDigit = true :=
    List.all_eq_true.mpr (allDigits_toDigits n)
  have value : (Nat.toDigits 10 n).foldl (fun n c => n * 10 + (c.toNat - '0'.toNat)) 0 = n := by
    have h : Nat.ofDigitChars 10 (Nat.toDigits 10 n) 0 = n := Nat.ofDigitChars_ten_toDigits
    rw [Nat.ofDigitChars_eq_foldl] at h
    simpa only [Nat.mul_comm 10] using h
  rw [ofNat, nat?, if_pos digits, value]

/-! ### Spelled values -/

/-- A text has no numbers. -/
@[simp] theorem isSpelled_ofText (text : String) : (ofText text).IsSpelled := by
  simp [ofText, IsSpelled, tokens]

/-- A written number is spelled as one. -/
@[simp] theorem isSpelled_ofNat (n : Nat) : (ofNat n).IsSpelled := by
  simp [ofNat, IsSpelled, tokens, spellsNumber_toDigits]

/-- The numbers of a list are those of its items. -/
theorem isSpelled_array {items : List Value} (h : ∀ item ∈ items, item.IsSpelled) :
    (Value.array items).IsSpelled := by
  have spelled : AllSpelled (itemTokens items) := by
    induction items with
    | nil => exact allSpelled_nil
    | cons item rest ih =>
      obtain ⟨first, others⟩ := List.forall_mem_cons.mp h
      cases rest with
      | nil => exact first
      | cons next rest =>
        rw [itemTokens, allSpelled_append_iff, allSpelled_cons_iff]
        exact ⟨first, by simp, ih others⟩
  simp [IsSpelled, tokens, spelled]

/-- The numbers of a record are those of its fields. -/
theorem isSpelled_ofFields {fields : List (String × Value)}
    (h : ∀ field ∈ fields, field.2.IsSpelled) : (ofFields fields).IsSpelled := by
  have spelled : AllSpelled (memberTokens (fields.map fun field => (some field.1, field.2))) := by
    induction fields with
    | nil => exact allSpelled_nil
    | cons field rest ih =>
      obtain ⟨first, others⟩ := List.forall_mem_cons.mp h
      have value : AllSpelled field.2.tokens := first
      cases rest with
      | nil => simp [memberTokens, value]
      | cons next rest =>
        have more := ih others
        simp only [List.map_cons] at more ⊢
        simp [memberTokens, value, more]
  have members : ofFields fields = .object (fields.map fun field => (some field.1, field.2)) := rfl
  simp [members, IsSpelled, tokens, spelled]

/-! ### Lists and records -/

/-- Reading some items yields values exactly if each of them yields one. -/
theorem mapM_eq_some_iff {α β : Type} {read : α → Option β} {items : List α} {values : List β} :
    items.mapM read = some values ↔
      List.Forall₂ (fun item value => read item = some value) items values := by
  induction items generalizing values with
  | nil => simp [eq_comm]
  | cons item rest ih =>
    simp only [List.mapM_cons, Option.bind_eq_bind, Option.bind_eq_some_iff, ih,
      List.forall₂_cons_left_iff]
    constructor
    · rintro ⟨value, first, values, others, ⟨⟩⟩
      exact ⟨value, values, first, others, rfl⟩
    · rintro ⟨value, values, first, others, rfl⟩
      exact ⟨value, first, values, others, rfl⟩

/-- A reader that succeeds on every item of a list reads the list. -/
theorem mapM_eq_some_map {α β : Type} {read : α → Option β} {value : α → β} {items : List α}
    (h : ∀ item ∈ items, read item = some (value item)) :
    items.mapM read = some (items.map value) :=
  mapM_eq_some_iff.mpr (List.forall₂_map_right_iff.mpr (List.forall₂_same.mpr h))

/-- Only one field bears a name that is not declared twice. -/
theorem filter_name_eq {fields : List (String × Value)} (nodup : (fields.map Prod.fst).Nodup)
    {field : String × Value} (mem : field ∈ fields) :
    fields.filter (fun other => other.1 = field.1) = [field] := by
  induction fields with
  | nil => cases mem
  | cons first rest ih =>
    obtain ⟨fresh, nodup⟩ := List.nodup_cons.mp nodup
    rcases List.mem_cons.mp mem with rfl | mem
    · have others : rest.filter (fun other => other.1 = field.1) = [] := by
        rw [List.filter_eq_nil_iff]
        intro other later same
        exact fresh (List.mem_map.mpr ⟨other, later, of_decide_eq_true same⟩)
      rw [List.filter_cons_of_pos (by simp), others]
    · have apart : first.1 ≠ field.1 := by
        intro same
        exact fresh (List.mem_map.mpr ⟨field, mem, same.symm⟩)
      rw [List.filter_cons_of_neg (by simpa using apart), ih nodup mem]

/-- A field is found under its name. -/
theorem member?_of_mem {fields : List (String × Value)} (nodup : (fields.map Prod.fst).Nodup)
    {field : String × Value} (mem : field ∈ fields) :
    member? (fields.map fun (name, value) => (some name, value)) field.1 = some field.2 := by
  have named : ((fun member : Option String × Value => decide (member.1 = some field.1)) ∘
      fun (name, value) => (some name, value)) = fun other => decide (other.1 = field.1) := by
    funext other
    simp
  rw [member?, List.filter_map, named, filter_name_eq nodup mem]
  rfl

/-- The fields of a record are found under their names, in order. -/
theorem mapM_member? {fields : List (String × Value)} (nodup : (fields.map Prod.fst).Nodup) :
    (fields.map Prod.fst).mapM
        (member? (fields.map fun (name, value) => (some name, value))) =
      some (fields.map Prod.snd) := by
  rw [List.mapM_map]
  exact mapM_eq_some_map fun field mem => member?_of_mem nodup mem

/-- **A written record is read back** as the values of its fields. -/
theorem fields?_ofFields {fields : List (String × Value)} (nodup : (fields.map Prod.fst).Nodup) :
    (ofFields fields).fields? (fields.map Prod.fst) = some (fields.map Prod.snd) := by
  rw [ofFields, Value.fields?, if_pos, mapM_member? nodup]
  simp

/-- **A written record is read back** as the values of its fields also where no other members are
admitted. -/
theorem exactFields?_ofFields {fields : List (String × Value)}
    (nodup : (fields.map Prod.fst).Nodup) :
    (ofFields fields).exactFields? (fields.map Prod.fst) = some (fields.map Prod.snd) := by
  rw [ofFields, exactFields?, if_pos, mapM_member? nodup]
  rw [List.all_map, List.all_eq_true]
  intro field mem
  exact List.any_eq_true.mpr ⟨field.1, List.mem_map_of_mem mem, by simp⟩

end Value

end Json

end HostProvision
