/-! # Lists cut at a separator

Search paths are cut at colons, paths at slashes and files at line feeds. What the cutting does to a
list is up to where the separator stands in it.

* **A separator in the middle** cuts a list into the pieces before it and those behind it,
  `splitOn_append_cons_self`.
* What has no separator is one piece, `splitOn_eq_singleton_iff`, and is joined to the piece behind
  it, `splitOn_append_of_not_mem`. -/

namespace HostProvision

variable {α : Type} [BEq α] [LawfulBEq α] {separator : α}

/-- **What stands before a separator and what stands behind it** are cut apart. -/
theorem splitOn_append_cons_self (before after : List α) :
    (before ++ separator :: after).splitOn separator =
      before.splitOn separator ++ after.splitOn separator :=
  List.splitOnP_append_cons before after (beq_self_eq_true separator)

/-- What is one piece has no separator. -/
theorem splitOn_eq_singleton_iff {content : List α} :
    content.splitOn separator = [content] ↔ separator ∉ content := by
  refine ⟨fun one mem => ?_, List.splitOn_eq_singleton⟩
  obtain ⟨before, after, same⟩ := List.append_of_mem mem
  rw [same, splitOn_append_cons_self] at one
  have first := List.length_pos_iff.mpr (List.splitOn_ne_nil separator before)
  have second := List.length_pos_iff.mpr (List.splitOn_ne_nil separator after)
  have both := congrArg List.length one
  rw [List.length_append, List.length_singleton] at both
  omega

/-- What has no separator is joined to the piece behind it. -/
theorem splitOn_append_of_not_mem {front : List α} (none : separator ∉ front) (added : List α) :
    (front ++ added).splitOn separator = (added.splitOn separator).modifyHead (front ++ ·) := by
  induction front with
  | nil =>
    rw [List.nil_append]
    cases added.splitOn separator <;> rfl
  | cons item front ih =>
    obtain ⟨other, none⟩ := not_or.mp (mt List.mem_cons.mpr none)
    have apart : (item == separator) = false := beq_eq_false_iff_ne.mpr (Ne.symm other)
    rw [List.cons_append, List.splitOn, List.splitOnP_cons_eq_if_modifyHead, apart,
      if_neg Bool.false_ne_true, ← List.splitOn, ih none, List.modifyHead_modifyHead]
    rfl

end HostProvision
