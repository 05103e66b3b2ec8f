import HostProvision.PathUpdate
import Mathlib.Data.List.Induction

/-! # Search paths under one update after another

What a search path comes to when directories are put in front of it one after another, where a
directory with a colon is refused and changes nothing.

* **`SearchPath.prependAll`** applies an update for each directory in turn.
* **The law of updates**, `SearchPath.prependAll_spec`: in front stand the accepted directories from
  last to first, each in its latest spelling, and behind them those entries of the search path
  before that are the same as none of them. So no directory is there twice, and doing it all again
  changes nothing. -/

namespace HostProvision

/-! ## Paths in their first spelling -/

namespace Path

/-- The paths of a list, without those that are the same as an earlier one. -/
def distinct (paths : List Bytes) : List Bytes :=
  paths.eraseDupsBy same

@[simp] theorem distinct_nil : distinct [] = [] := rfl

/-- The first path is kept, and the others that are the same are not. -/
theorem distinct_cons (path : Bytes) (paths : List Bytes) :
    distinct (path :: paths) = path :: distinct (paths.filter fun other => !same other path) := by
  simp [distinct, List.eraseDupsBy_cons]

/-- Induction along `distinct`: from the paths that differ from the first to all of them. -/
@[elab_as_elim] theorem distinct_induction {motive : List Bytes → Prop} (nil : motive [])
    (cons : ∀ path paths, motive (paths.filter fun other => !same other path) →
      motive (path :: paths)) (paths : List Bytes) : motive paths := by
  match paths with
  | [] => exact nil
  | path :: paths => exact cons path paths (distinct_induction nil cons _)
termination_by paths.length
decreasing_by exact Nat.lt_succ_of_le (List.length_filter_le _ _)

/-- A choice of paths that goes by their components. -/
def Respected (keep : Bytes → Bool) : Prop :=
  ∀ ⦃first second : Bytes⦄, same first second = true → keep first = keep second

/-- Being the same as a path goes by the components. -/
theorem respected_same (path : Bytes) : Respected (same · path) := by
  intro first second h
  have components_eq : components first = components second := of_decide_eq_true h
  simp only [same, components_eq]

/-- Not being the same as a path goes by the components. -/
theorem respected_not_same (path : Bytes) : Respected fun other => !same other path :=
  fun _ _ h => congrArg (!·) (respected_same path h)

/-- A choice that goes by the components is made before or after the repetitions are dropped. -/
theorem filter_distinct {keep : Bytes → Bool} (h : Respected keep) (paths : List Bytes) :
    (distinct paths).filter keep = distinct (paths.filter keep) := by
  induction paths using distinct_induction with
  | nil => rfl
  | cons path paths ih =>
    rw [distinct_cons, List.filter_cons, List.filter_cons, ih, List.filter_filter]
    cases kept : keep path with
    | true =>
      rw [if_pos rfl, if_pos rfl, distinct_cons, List.filter_filter]
      simp only [Bool.and_comm]
    | false =>
      -- Nothing that is kept is the same as the first path.
      have apart : paths.filter (fun other => keep other && !same other path) =
          paths.filter keep := by
        refine List.filter_congr fun other _ => ?_
        cases alike : same other path with
        | true => simp [h alike, kept]
        | false => simp
      rw [apart, if_neg Bool.false_ne_true, if_neg Bool.false_ne_true]

/-- Only paths of the list remain. -/
theorem mem_of_mem_distinct {path : Bytes} {paths : List Bytes} (h : path ∈ distinct paths) :
    path ∈ paths := by
  induction paths using distinct_induction with
  | nil => exact h
  | cons first paths ih =>
    rw [distinct_cons, List.mem_cons] at h
    rcases h with rfl | h
    · exact List.mem_cons_self
    · exact List.mem_cons_of_mem first (List.mem_filter.mp (ih h)).1

/-- **Of the paths that are the same one remains.** -/
theorem countP_same_distinct {path : Bytes} {paths : List Bytes} (mem : path ∈ paths) :
    (distinct paths).countP (same · path) = 1 := by
  rw [List.countP_eq_length_filter, filter_distinct (respected_same path)]
  have mem : path ∈ paths.filter (same · path) := List.mem_filter.mpr ⟨mem, same_refl path⟩
  have alike : ∀ other ∈ paths.filter (same · path), same other path = true :=
    fun other h => (List.mem_filter.mp h).2
  generalize paths.filter (same · path) = alikes at mem alike
  cases alikes with
  | nil => cases mem
  | cons first rest =>
    -- All the others are the same as the first, because all are the same as the path.
    have none : rest.filter (fun other => !same other first) = [] := by
      rw [List.filter_eq_nil_iff]
      intro other h
      have first_alike : same path first = true := by
        rw [same_comm]
        exact alike first List.mem_cons_self
      simp [same_trans (alike other (List.mem_cons_of_mem first h)) first_alike]
    rw [distinct_cons, none]
    rfl

end Path

/-! ## Updates -/

namespace SearchPath

/-- The directories of a search path, none if there is no search path. -/
def listed (current : Option Bytes) : List Bytes :=
  (current.map entries).getD []

@[simp] theorem listed_none : listed none = [] := rfl

@[simp] theorem listed_some (path : Bytes) : listed (some path) = entries path := rfl

/-- An empty search path has one empty entry. -/
@[simp] theorem entries_nil : entries [] = [[]] := rfl

/-- No entry of a search path holds a colon. -/
theorem colon_notMem_of_mem_entries {path entry : Bytes} (mem : entry ∈ entries path) :
    colon ∉ entry := by
  induction path generalizing entry with
  | nil =>
    rw [entries_nil, List.mem_singleton] at mem
    simp [mem]
  | cons octet path ih =>
    rw [entries, List.splitOn_cons_eq_if_modifyHead] at mem
    by_cases separator : octet = colon
    · rw [if_pos (beq_iff_eq.mpr separator), List.mem_cons] at mem
      rcases mem with rfl | mem
      · exact List.not_mem_nil
      · exact ih mem
    · -- Any other octet belongs to the first entry and leaves the rest as they are.
      rw [if_neg (fun h => separator (beq_iff_eq.mp h))] at mem
      cases hrest : entries path with
      | nil => exact absurd hrest (List.splitOn_ne_nil colon path)
      | cons first rest =>
        have split : path.splitOn colon = first :: rest := hrest
        rw [split, List.modifyHead_cons, List.mem_cons] at mem
        rcases mem with rfl | mem
        · have first_free : colon ∉ first := ih (by simp [hrest])
          simp [Ne.symm separator, first_free]
        · exact ih (by simp [hrest, mem])

/-- No directory of a search path holds a colon. -/
theorem colon_notMem_of_mem_listed {current : Option Bytes} {entry : Bytes}
    (mem : entry ∈ listed current) : colon ∉ entry := by
  cases current with
  | none => cases mem
  | some path => exact colon_notMem_of_mem_entries mem

/-- Search paths with the same directories are the same, octet by octet. -/
theorem eq_of_entries_eq {first second : Bytes} (h : entries first = entries second) :
    first = second := by
  rw [← intercalate_entries first, h, intercalate_entries]

/-- Directories cannot be joined exactly if one of them holds a colon. -/
theorem join?_eq_none_iff {directories : List Bytes} :
    join? directories = none ↔ ∃ directory ∈ directories, colon ∈ directory := by
  simp [join?]

/-- **Joining and splitting are inverse** for directories without colons. -/
theorem join?_eq_some_iff {directories : List Bytes} (nonempty : directories ≠ []) {path : Bytes} :
    join? directories = some path ↔
      (∀ directory ∈ directories, colon ∉ directory) ∧ entries path = directories := by
  constructor
  · intro joined
    have free : ∀ directory ∈ directories, colon ∉ directory := by
      intro directory mem held
      rw [join?_eq_none_iff.mpr ⟨directory, mem, held⟩] at joined
      cases joined
    rw [join?, if_neg (by simpa using free)] at joined
    cases joined
    exact ⟨free, List.splitOn_intercalate colon free nonempty⟩
  · rintro ⟨free, rfl⟩
    rw [join?, if_neg (by simpa using free), intercalate_entries]

/-- The directories after an update hold a colon only if the new one does. -/
theorem exists_colon_mem_updatedEntries (update : PathUpdate) (current : Option Bytes) :
    (∃ entry ∈ update.updatedEntries (listed current), colon ∈ entry) ↔
      colon ∈ update.directory := by
  constructor
  · rintro ⟨entry, mem, held⟩
    rcases List.mem_cons.mp mem with rfl | mem
    · exact held
    · exact absurd held (colon_notMem_of_mem_listed (List.mem_filter.mp mem).1)
  · exact fun held => ⟨update.directory, List.mem_cons_self, held⟩

/-- **An update is refused exactly for a colon** in its directory, and says so. -/
theorem apply_eq_error_iff {update : PathUpdate} {current : Option Bytes} {failure : Failure} :
    update.apply current = .error failure ↔
      colon ∈ update.directory ∧ failure = .settings ("Cannot add " ++ update.shown ++
        " to PATH: path segment contains separator `:`") := by
  rw [← exists_colon_mem_updatedEntries update current, ← join?_eq_none_iff, PathUpdate.apply,
    ← listed]
  cases join? (update.updatedEntries (listed current)) <;> simp [eq_comm]

/-- **An accepted update** puts its directory in front of the others that are not the same. -/
theorem apply_eq_ok_iff {update : PathUpdate} {current : Option Bytes} {path : Bytes} :
    update.apply current = .ok path ↔
      colon ∉ update.directory ∧ entries path = update.updatedEntries (listed current) := by
  have free : colon ∉ update.directory ↔
      ∀ entry ∈ update.updatedEntries (listed current), colon ∉ entry := by
    rw [← exists_colon_mem_updatedEntries update current]
    simp
  have nonempty : update.updatedEntries (listed current) ≠ [] := List.cons_ne_nil _ _
  rw [free, ← join?_eq_some_iff nonempty, PathUpdate.apply, ← listed]
  cases join? (update.updatedEntries (listed current)) <;> simp

/-! ## One update after another -/

/-- The search path with a directory put in front, or as it is if the directory is refused. -/
def prepend (directory : Bytes) (current : Option Bytes) : Option Bytes :=
  match (⟨directory⟩ : PathUpdate).apply current with
  | .ok path => some path
  | .error _ => current

/-- The search path with one directory after another put in front. -/
def prependAll (directories : List Bytes) (current : Option Bytes) : Option Bytes :=
  directories.foldl (fun path directory => prepend directory path) current

/-- The directories that are not refused. -/
def accepted (directories : List Bytes) : List Bytes :=
  directories.filter fun directory => !directory.contains colon

@[simp] theorem mem_accepted {directory : Bytes} {directories : List Bytes} :
    directory ∈ accepted directories ↔ directory ∈ directories ∧ colon ∉ directory := by
  simp [accepted]

/-- A directory with a colon changes nothing. -/
theorem prepend_of_mem {directory : Bytes} (held : colon ∈ directory) (current : Option Bytes) :
    prepend directory current = current := by
  rw [prepend, apply_eq_error_iff.mpr ⟨held, rfl⟩]

/-- A directory without colons comes first, before the entries that are not the same. -/
theorem exists_prepend_of_notMem {directory : Bytes} (free : colon ∉ directory)
    (current : Option Bytes) :
    ∃ path, prepend directory current = some path ∧
      entries path = (⟨directory⟩ : PathUpdate).updatedEntries (listed current) := by
  rw [prepend]
  cases applied : (⟨directory⟩ : PathUpdate).apply current with
  | ok path => exact ⟨path, rfl, (apply_eq_ok_iff.mp applied).2⟩
  | error failure => exact absurd (apply_eq_error_iff.mp applied).1 free

/-- What is put in front last is put in front of all the rest. -/
theorem prependAll_append (first second : List Bytes) (current : Option Bytes) :
    prependAll (first ++ second) current = prependAll second (prependAll first current) :=
  List.foldl_append

/-- If every directory is refused, nothing changes. -/
theorem prependAll_of_accepted_eq_nil {directories : List Bytes}
    (refused : accepted directories = []) (current : Option Bytes) :
    prependAll directories current = current := by
  induction directories with
  | nil => rfl
  | cons directory directories ih =>
    by_cases held : colon ∈ directory
    · rw [accepted, List.filter_cons_of_neg (by simpa using held)] at refused
      rw [prependAll, List.foldl_cons, prepend_of_mem held]
      exact ih refused
    · have mem : directory ∈ accepted (directory :: directories) := by simp [held]
      rw [refused] at mem
      cases mem

/-- If some directory is accepted, there is a search path. -/
theorem exists_prependAll_of_accepted_ne_nil {directories : List Bytes}
    (nonempty : accepted directories ≠ []) (current : Option Bytes) :
    ∃ path, prependAll directories current = some path := by
  induction directories using List.reverseRecOn with
  | nil => exact absurd rfl nonempty
  | append_singleton directories directory ih =>
    rw [prependAll_append]
    by_cases held : colon ∈ directory
    · have nonempty : accepted directories ≠ [] := by
        simpa [accepted, List.filter_append, held] using nonempty
      obtain ⟨path, before⟩ := ih nonempty
      exact ⟨path, (prepend_of_mem held _).trans before⟩
    · obtain ⟨path, after, -⟩ := exists_prepend_of_notMem held (prependAll directories current)
      exact ⟨path, after⟩

/-- The entries of a search path that are the same as none of the given directories. -/
def others (directories : List Bytes) (current : Option Bytes) : List Bytes :=
  (listed current).filter fun entry => directories.all fun directory => !Path.same entry directory

/-- **The directories after any updates**: those accepted from last to first, each in its latest
spelling, and then the others. -/
theorem listed_prependAll (directories : List Bytes) (current : Option Bytes) :
    listed (prependAll directories current) =
      Path.distinct (accepted directories).reverse ++ others (accepted directories) current := by
  -- The induction adds the last directory, which comes first in the result.
  induction directories using List.reverseRecOn with
  | nil => exact (List.filter_eq_self.mpr fun _ _ => rfl).symm
  | append_singleton directories directory ih =>
    rw [prependAll_append]
    by_cases held : colon ∈ directory
    · have same : accepted (directories ++ [directory]) = accepted directories := by
        simp [accepted, List.filter_append, held]
      rw [same, ← ih]
      exact congrArg listed (prepend_of_mem held _)
    · have more : accepted (directories ++ [directory]) = accepted directories ++ [directory] := by
        simp [accepted, List.filter_append, held]
      obtain ⟨path, after, hentries⟩ :=
        exists_prepend_of_notMem held (prependAll directories current)
      have prepended : prependAll [directory] (prependAll directories current) = some path := after
      rw [prepended, listed_some, hentries, PathUpdate.updatedEntries, ih, more,
        List.filter_append, Path.filter_distinct (Path.respected_not_same directory),
        List.reverse_append, List.reverse_singleton, List.singleton_append, Path.distinct_cons,
        List.cons_append, others, others, List.filter_filter]
      simp [Bool.and_comm]

/-- Putting the same directories in front again changes nothing. -/
theorem prependAll_prependAll (directories : List Bytes) (current : Option Bytes) :
    prependAll directories (prependAll directories current) = prependAll directories current := by
  by_cases refused : accepted directories = []
  · rw [prependAll_of_accepted_eq_nil refused]
  · obtain ⟨once, honce⟩ := exists_prependAll_of_accepted_ne_nil refused current
    obtain ⟨twice, htwice⟩ :=
      exists_prependAll_of_accepted_ne_nil refused (prependAll directories current)
    -- What was put in front the first time is dropped the second time, as it is put there again.
    have front : (Path.distinct (accepted directories).reverse).filter (fun entry =>
        (accepted directories).all fun directory => !Path.same entry directory) = [] := by
      rw [List.filter_eq_nil_iff]
      intro entry mem
      have mem : entry ∈ accepted directories :=
        List.mem_reverse.mp (Path.mem_of_mem_distinct mem)
      rw [List.all_eq_true]
      intro apart
      simpa using apart entry mem
    have again : others (accepted directories) (prependAll directories current) =
        others (accepted directories) current := by
      rw [others, listed_prependAll, List.filter_append, front, others, List.filter_filter]
      simp
    have unchanged : entries twice = entries once := by
      rw [← listed_some twice, ← htwice, listed_prependAll, again, ← listed_prependAll, honce,
        listed_some]
    rw [htwice, honce, eq_of_entries_eq unchanged]

/-- However often the same directories are put in front, it is as if it was done once. -/
theorem prependAll_replicate (directories : List Bytes) (times : Nat) (current : Option Bytes) :
    prependAll (List.replicate (times + 1) directories).flatten current =
      prependAll directories current := by
  induction times with
  | zero => simp
  | succ times ih =>
    rw [List.replicate_succ', List.flatten_append, prependAll_append, ih, List.flatten_singleton,
      prependAll_prependAll]

/-- **Every accepted directory occurs once**, in whatever spelling. -/
theorem countP_same_listed_prependAll {directory : Bytes} {directories : List Bytes}
    (mem : directory ∈ accepted directories) (current : Option Bytes) :
    (listed (prependAll directories current)).countP (Path.same · directory) = 1 := by
  have absent : (others (accepted directories) current).countP (Path.same · directory) = 0 := by
    rw [List.countP_eq_zero]
    intro entry hentry
    have apart := List.all_eq_true.mp (List.mem_filter.mp hentry).2 directory mem
    simpa using apart
  rw [listed_prependAll, List.countP_append, absent,
    Path.countP_same_distinct (List.mem_reverse.mpr mem)]

/-- A directory that is put in front once more moves there, so that there are no more entries than
before. -/
theorem length_listed_prepend_prependAll {directory : Bytes} {directories : List Bytes}
    (mem : directory ∈ accepted directories) (current : Option Bytes) :
    (listed (prepend directory (prependAll directories current))).length =
      (listed (prependAll directories current)).length := by
  obtain ⟨path, moved, hentries⟩ :=
    exists_prepend_of_notMem (mem_accepted.mp mem).2 (prependAll directories current)
  rw [moved, listed_some, hentries, PathUpdate.updatedEntries, List.length_cons,
    ← List.countP_eq_length_filter, List.length_eq_countP_add_countP (Path.same · directory),
    countP_same_listed_prependAll mem, Nat.add_comm]
  simp

/-- **The law of updates.** A directory is refused exactly when it holds a colon. If all are
refused, nothing changes; otherwise the search path consists of the accepted directories from last
to first, of those that are the same only the latest, and then of the entries of the search path
before that are the same as none of them. So putting a directory in front twice is the same as
doing it once, every accepted directory occurs exactly once, and nothing grows when one of them is
put in front once more, or when it is all done again, however often. -/
theorem prependAll_spec (directories : List Bytes) (current : Option Bytes) :
    (∀ (update : PathUpdate) (path : Option Bytes),
      (colon ∉ update.directory → ∃ next, update.apply path = .ok next) ∧
      (colon ∈ update.directory → update.apply path = .error (.settings ("Cannot add " ++
        update.shown ++ " to PATH: path segment contains separator `:`")))) ∧
    (accepted directories = [] → prependAll directories current = current) ∧
    (accepted directories ≠ [] → ∃ path, prependAll directories current = some path ∧
      entries path = Path.distinct (accepted directories).reverse ++
        others (accepted directories) current) ∧
    (∀ directory, prepend directory (prepend directory current) = prepend directory current) ∧
    (∀ directory ∈ accepted directories,
      (listed (prependAll directories current)).countP (Path.same · directory) = 1 ∧
      (listed (prepend directory (prependAll directories current))).length =
        (listed (prependAll directories current)).length) ∧
    ∀ times, prependAll (List.replicate (times + 1) directories).flatten current =
      prependAll directories current := by
  refine ⟨fun update path => ⟨?_, ?_⟩, ?_, ?_, ?_, ?_, ?_⟩
  · intro free
    cases applied : update.apply path with
    | ok next => exact ⟨next, rfl⟩
    | error failure => exact absurd (apply_eq_error_iff.mp applied).1 free
  · exact fun held => apply_eq_error_iff.mpr ⟨held, rfl⟩
  · exact fun refused => prependAll_of_accepted_eq_nil refused current
  · intro nonempty
    obtain ⟨path, result⟩ := exists_prependAll_of_accepted_ne_nil nonempty current
    refine ⟨path, result, ?_⟩
    rw [← listed_some path, ← result, listed_prependAll]
  · exact fun directory => prependAll_prependAll [directory] current
  · exact fun directory mem => ⟨countP_same_listed_prependAll mem current,
      length_listed_prepend_prependAll mem current⟩
  · exact fun times => prependAll_replicate directories times current

example : prependAll [Utf8.encode "/a", Utf8.encode "b:c", Utf8.encode "/a/"]
    (some (Utf8.encode "/x:/a/.::/x")) = some (Utf8.encode "/a/:/x::/x") := by decide +kernel

end SearchPath

end HostProvision
