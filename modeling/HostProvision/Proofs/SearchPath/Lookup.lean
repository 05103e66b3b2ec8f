import HostProvision.Proofs.SearchPath.Export
import HostProvision.Proofs.Text.Pieces

/-! # Lookups after an update

The two forms of an update leave different search paths: `PathUpdate.apply` drops later copies of
the directory, and the line for a shell keeps them. What is looked up in either is found in the same
entry, as long as the line names the directory at all.

* **Dropped copies are not missed**, `PathUpdate.find?_updatedEntries`, by a lookup that goes by the
  components of an entry.
* A directory without octets that have a meaning between double quotes is read by a shell as it is
  shown, `PathUpdate.evaluate_exportLine_of_ordinary`.
* **Where the two forms agree**, `PathUpdate.lookupsAgree_iff`: exactly for the directories that are
  well-formed UTF-8, as any other is not shown as it is. -/

namespace HostProvision

namespace PathUpdate

open ExportLine SearchPath

/-- **Dropped copies are not missed**: a lookup that goes by the components of an entry has the
directory for them. -/
theorem find?_updatedEntries (update : PathUpdate) {sought : Bytes → Bool}
    (respected : Path.Respected sought) (current : List Bytes) :
    (update.updatedEntries current).find? sought =
      (update.directory :: current).find? sought := by
  cases found : sought update.directory with
  | true => rw [updatedEntries, List.find?_cons_of_pos found, List.find?_cons_of_pos found]
  | false =>
    have apart : ¬ sought update.directory = true := by simp [found]
    rw [updatedEntries, List.find?_cons_of_neg apart, List.find?_cons_of_neg apart,
      List.find?_filter]
    refine congrArg (List.find? · current) (funext fun entry => ?_)
    -- A copy would be sought no more than the directory.
    cases copy : Path.same entry update.directory with
    | true => simp [respected copy, found]
    | false => simp

/-- Whether a directory has no octet with a meaning between double quotes can be computed. -/
theorem ordinary_of_any_eq_false {directory : Bytes} (ordinary : directory.any isSpecial = false) :
    ∀ octet ∈ directory, isSpecial octet = false :=
  fun octet mem => Bool.eq_false_iff.mpr (List.any_eq_false.mp ordinary octet mem)

/-- An octet without a meaning between double quotes stands for itself there. -/
theorem isPlain_of_ordinary {directory : Bytes}
    (ordinary : ∀ octet ∈ directory, isSpecial octet = false) : isPlain directory = true := by
  induction directory with
  | nil => rfl
  | cons octet rest ih =>
    obtain ⟨first, others⟩ := List.forall_mem_cons.mp ordinary
    have notBackslash : octet ≠ backslash := by
      rintro rfl
      exact absurd first (by decide)
    have itself : standsForItself octet rest = true := by
      rw [standsForItself, if_neg notBackslash, first]
      rfl
    rw [isPlain, itself, ih others]
    rfl

/-- What has a meaning between double quotes or in a search path is below `0x80`. -/
theorem ascii_of_special {octet : UInt8} (h : isSpecial octet = true ∨ octet = colon) :
    octet < 0x80 := by
  simp only [isSpecial, Bool.or_eq_true, decide_eq_true_eq] at h
  rcases h with (((rfl | rfl) | rfl) | rfl) | rfl <;> decide

variable {update : PathUpdate}

/-- Showing a directory adds no octet that has a meaning between double quotes. -/
theorem ordinary_encode_shown
    (ordinary : ∀ octet ∈ update.directory, isSpecial octet = false) :
    ∀ octet ∈ Utf8.encode update.shown, isSpecial octet = false := by
  intro octet mem
  cases special : isSpecial octet with
  | false => rfl
  | true =>
    have held := Utf8.mem_of_mem_encode_lossy (ascii_of_special (.inl special)) mem
    rw [ordinary octet held] at special
    cases special

/-- Showing a directory adds no colon. -/
theorem colon_notMem_encode_shown (free : colon ∉ update.directory) :
    colon ∉ Utf8.encode update.shown :=
  fun mem => free (Utf8.mem_of_mem_encode_lossy (ascii_of_special (.inr rfl)) mem)

/-- **A shell reads the directory as it is shown** and puts it in front of its search path, if
nothing in the directory has a meaning between double quotes. -/
theorem evaluate_exportLine_of_ordinary (shell : Parameters)
    (ordinary : ∀ octet ∈ update.directory, isSpecial octet = false) :
    evaluate shell (Utf8.encode update.exportLine) =
      some (Utf8.encode update.shown ++ colon :: shell.searchPath) := by
  -- The line is that of the directory as it is shown, which is a text.
  let named : PathUpdate := ⟨Utf8.encode update.shown⟩
  have shown : named.shown = update.shown := Utf8.lossy_encode update.shown
  have line : named.exportLine = update.exportLine := by
    rw [exportLine, exportLine, shown]
  have text : Utf8.encode named.shown = named.directory := congrArg Utf8.encode shown
  rw [← line, evaluate_exportLine shell text]
  exact expand_append_closing (isPlain_of_ordinary (ordinary_encode_shown ordinary))

/-- Whatever the search path is, a shell that reads the line finds the same as in the updated search
path, if it is sought by something that goes by the components of an entry. -/
def LookupsAgree (update : PathUpdate) : Prop :=
  ∀ (shell : Parameters) (path : Bytes), shell (Utf8.encode "PATH") = some path →
    ∃ exported applied, evaluate shell (Utf8.encode update.exportLine) = some exported ∧
      update.apply (some path) = .ok applied ∧
      ∀ sought, Path.Respected sought →
        (entries exported).find? sought = (entries applied).find? sought

/-- **Where the two forms agree.** Take a directory without colons and without octets that have a
meaning between double quotes. Every shell reads the line as the directory as it is shown, in front
of its search path. So the lookups agree, whatever the search path is, exactly if the directory is
well-formed UTF-8, which is shown as it is: any other directory is found after the update and is not
found by a shell that has read the line. -/
theorem lookupsAgree_iff {directory : Bytes} (free : colon ∉ directory)
    (ordinary : ∀ octet ∈ directory, isSpecial octet = false) :
    let update : PathUpdate := ⟨directory⟩
    (∀ shell : Parameters, evaluate shell (Utf8.encode update.exportLine) =
      some (Utf8.encode update.shown ++ colon :: shell.searchPath)) ∧
    (LookupsAgree update ↔ ∃ text, directory = Utf8.encode text) := by
  intro update
  have read (shell : Parameters) : evaluate shell (Utf8.encode update.exportLine) =
      some (Utf8.encode update.shown ++ colon :: shell.searchPath) :=
    evaluate_exportLine_of_ordinary shell ordinary
  refine ⟨read, fun agree => ?_, ?_⟩
  · -- A shell with another search path than the directory has to find the directory.
    obtain ⟨exported, applied, exports, applies, same⟩ := agree .bare [Path.slash] rfl
    obtain rfl := Option.some.inj ((read .bare).symm.trans exports)
    have sought := Path.respected_same directory
    have present : (entries applied).find? (Path.same · directory) = some directory := by
      rw [(apply_eq_ok_iff.mp applies).2, find?_updatedEntries update sought]
      exact List.find?_cons_of_pos (Path.same_refl directory)
    rw [← same _ sought, entries, splitOn_append_cons_self,
      List.splitOn_eq_singleton (colon_notMem_encode_shown free)] at present
    rcases List.mem_cons.mp (List.mem_of_find?_eq_some present) with shown | root
    · exact ⟨update.shown, shown⟩
    · exact ⟨"/", List.mem_singleton.mp root⟩
  · rintro ⟨text, rfl⟩ shell path set
    have searchPath : shell.searchPath = path := congrArg (Option.getD · []) set
    have shown : Utf8.encode update.shown = Utf8.encode text :=
      congrArg Utf8.encode (Utf8.lossy_encode text)
    cases applies : update.apply (some path) with
    | error failure => exact absurd (apply_eq_error_iff.mp applies).1 free
    | ok applied =>
      refine ⟨_, applied, read shell, rfl, fun sought respected => ?_⟩
      rw [(apply_eq_ok_iff.mp applies).2, find?_updatedEntries update respected, shown, searchPath,
        entries, splitOn_append_cons_self, List.splitOn_eq_singleton free]
      rfl

/-- The lookups agree for a directory with a repeated slash, which other entries may be the same
as. -/
theorem lookupsAgree_repeatedSlash :
    let directory := Utf8.encode "/usr//local/bin/"
    colon ∉ directory ∧ (∀ octet ∈ directory, isSpecial octet = false) ∧
      LookupsAgree ⟨directory⟩ := by
  intro directory
  have free : colon ∉ directory := by decide
  have ordinary : ∀ octet ∈ directory, isSpecial octet = false :=
    ordinary_of_any_eq_false (by decide)
  exact ⟨free, ordinary, (lookupsAgree_iff free ordinary).2.mpr ⟨_, rfl⟩⟩

/-- A directory whose name is no text is in the updated search path, while a shell that has read the
line looks for programs in another one. -/
theorem not_lookupsAgree_illFormed :
    let update : PathUpdate := ⟨[0x2F, 0xFF]⟩
    colon ∉ update.directory ∧ (∀ octet ∈ update.directory, isSpecial octet = false) ∧
      evaluate .bare (Utf8.encode update.exportLine) =
        some [0x2F, 0xEF, 0xBF, 0xBD, 0x3A, 0x2F] ∧
      update.apply (some [0x2F]) = .ok [0x2F, 0xFF, 0x3A, 0x2F] ∧
      ¬LookupsAgree update := by
  intro update
  have exports : evaluate .bare (Utf8.encode update.exportLine) =
      some [0x2F, 0xEF, 0xBF, 0xBD, 0x3A, 0x2F] := by decide +kernel
  have applies : update.apply (some [0x2F]) = .ok [0x2F, 0xFF, 0x3A, 0x2F] := by decide +kernel
  refine ⟨by decide, ordinary_of_any_eq_false (by decide), exports, applies, fun agree => ?_⟩
  obtain ⟨exported, applied, exported_eq, applied_eq, same⟩ := agree .bare [Path.slash] rfl
  obtain rfl := Option.some.inj (exports.symm.trans exported_eq)
  obtain rfl := Except.ok.inj (applies.symm.trans applied_eq)
  exact absurd (same _ (Path.respected_same update.directory)) (by decide +kernel)

end PathUpdate

end HostProvision
