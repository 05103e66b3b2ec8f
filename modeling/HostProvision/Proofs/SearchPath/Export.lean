import HostProvision.Proofs.SearchPath.Prepend
import HostProvision.Proofs.Text.Separators
import HostProvision.Proofs.Text.Utf8
import HostProvision.Settings
import HostProvision.Shell.Reader

/-! # The line for the calling shell

What a shell makes of `PathUpdate.exportLine`. The line writes the directory between double quotes
as it is, and there a quote, a dollar sign, a backquote and a backslash have a meaning.

* `ExportLine.evaluate` is the search path that a shell comes to by such a line, under the rules
  that POSIX gives for double quotes.
* **Plain directories** are those that stand for themselves between double quotes,
  `ExportLine.expand_append_closing` and `ExportLine.isPlain_of_expand`.
* **Where the line can be used**, `Settings.putsInFront_exportLine`: for a plain directory without a
  colon, in a shell that has a search path. A shell without one gets an empty entry. -/

namespace HostProvision

namespace ExportLine

/-! ## Double quotes -/

/-- The octet `"`. -/
abbrev quote : UInt8 := 0x22

/-- The octet `$`. -/
abbrev dollar : UInt8 := 0x24

/-- The octet `\`. -/
abbrev backslash : UInt8 := 0x5C

/-- The octet of a backquote. -/
abbrev backquote : UInt8 := 0x60

/-- The octet that ends a line. -/
abbrev newline : UInt8 := 0x0A

/-- The parameters of a shell that are set, with their values. -/
abbrev Parameters : Type :=
  Bytes → Option Bytes

namespace Parameters

/-- The value of a parameter; an unset one is empty. -/
def value (shell : Parameters) (name : Bytes) : Bytes :=
  (shell name).getD []

/-- The search path of a shell; one that is unset is as good as empty. -/
def searchPath (shell : Parameters) : Bytes :=
  shell.value (Utf8.encode "PATH")

/-- The directories of the search path, none if it is unset or empty. -/
def directories (shell : Parameters) : List Bytes :=
  if shell.searchPath = [] then [] else SearchPath.entries shell.searchPath

/-- A shell has no directories exactly if its search path is unset or empty. -/
theorem directories_eq_nil_iff {shell : Parameters} :
    shell.directories = [] ↔ shell.searchPath = [] := by
  rw [directories]
  split
  · simp [*]
  · simp [*, SearchPath.entries, List.splitOn_ne_nil]

/-- The directories of a shell that has some are the entries of its search path. -/
theorem directories_of_ne_nil {shell : Parameters} (h : shell.directories ≠ []) :
    shell.directories = SearchPath.entries shell.searchPath :=
  if_neg fun empty => h (directories_eq_nil_iff.mpr empty)

end Parameters

/-- Whether an octet may begin the name of a parameter. -/
def startsName (octet : UInt8) : Bool :=
  Shell.startsName (Char.ofNat octet.toNat)

/-- Whether an octet may go on the name of a parameter. -/
def continuesName (octet : UInt8) : Bool :=
  Shell.continuesName (Char.ofNat octet.toNat)

/-- Whether an octet has a meaning between double quotes. -/
def isSpecial (octet : UInt8) : Bool :=
  octet = quote || octet = dollar || octet = backquote || octet = backslash

/-- Whether an octet between double quotes stands for itself, given what follows. A backslash does
unless it takes the meaning of the next octet or joins two lines. -/
def standsForItself (octet : UInt8) (rest : Bytes) : Bool :=
  if octet = backslash then rest.head?.all fun next => !isSpecial next && next ≠ newline
  else !isSpecial octet

/-- What an octet between double quotes stands for, and how many of the octets behind it belong to
it. There is nothing for a quote, and for what starts any other expansion than that of a named
parameter. -/
def meaning? (shell : Parameters) (octet : UInt8) (rest : Bytes) : Option (Bytes × Nat) :=
  if standsForItself octet rest then some ([octet], 0)
  else if octet = backslash then some ((rest.take 1).filter (· ≠ newline), 1)
  else if octet = dollar ∧ rest.head?.any startsName then
    let name := rest.takeWhile continuesName
    some (shell.value name, name.length)
  else none

/-- What a shell makes of the octets behind an opening quote, of which some were read ahead. The
closing quote has to be the last octet, as more than the quoted text would follow otherwise. -/
def expand (shell : Parameters) : Nat → Bytes → Option Bytes
  | _, [] => none
  | ahead + 1, _ :: rest => expand shell ahead rest
  | 0, octet :: rest =>
    if octet = quote ∧ rest = [] then some []
    else (meaning? shell octet rest).bind fun (value, ahead) =>
      (expand shell ahead rest).map (value ++ ·)

/-- The octets that export the search path, up to the quote. -/
def opening : Bytes := Utf8.encode "export PATH=\""

/-- The octets behind the directory. -/
def closing : Bytes := Utf8.encode ":$PATH\""

/-- The search path that a line sets, if all that it does is to set the search path. -/
def evaluate (shell : Parameters) (line : Bytes) : Option Bytes :=
  (line.dropPrefix? opening).bind (expand shell 0)

/-- Whether all octets of a directory stand for themselves between double quotes. -/
def isPlain : Bytes → Bool
  | [] => true
  | octet :: rest => standsForItself octet rest && isPlain rest

variable {shell : Parameters} {octet : UInt8} {directory rest value path : Bytes} {ahead : Nat}

/-- Behind the directory comes the search path. -/
theorem expand_closing (shell : Parameters) :
    expand shell 0 closing = some (SearchPath.colon :: shell.searchPath) := by
  rw [← List.append_nil shell.searchPath]
  rfl

/-- What an octet stands for is settled by the directory, as a colon follows it. -/
theorem standsForItself_append_closing (octet : UInt8) (rest : Bytes) :
    standsForItself octet (rest ++ closing) = standsForItself octet rest := by
  cases rest with
  | nil =>
    rw [standsForItself, standsForItself]
    split <;> rfl
  | cons next rest => rfl

/-- A name ends in the directory at the latest. -/
theorem takeWhile_append_closing (rest : Bytes) :
    (rest ++ closing).takeWhile continuesName = rest.takeWhile continuesName := by
  induction rest with
  | nil => rfl
  | cons octet rest ih => rw [List.cons_append, List.takeWhile_cons, List.takeWhile_cons, ih]

/-- What may begin a name may go on a name. -/
theorem continuesName_of_startsName (h : startsName octet = true) : continuesName octet = true := by
  simp only [startsName, continuesName, Shell.startsName, Shell.continuesName, Char.isAlphanum,
    Bool.or_eq_true] at h ⊢
  exact h.imp_left .inl

/-- A name has an octet. -/
theorem length_name_pos (h : rest.head?.any startsName = true) :
    0 < (rest.takeWhile continuesName).length := by
  cases rest with
  | nil => cases h
  | cons octet rest =>
    rw [List.takeWhile_cons_of_pos (continuesName_of_startsName h)]
    exact Nat.succ_pos _

/-- An octet without a meaning is read alone. -/
theorem meaning?_of_standsForItself (itself : standsForItself octet rest = true) :
    meaning? shell octet rest = some ([octet], 0) :=
  if_pos itself

/-- **What an octet with a meaning can stand for**: a backslash for the octet behind it, and a
dollar sign for the value of a parameter. -/
theorem meaning?_cases (special : standsForItself octet rest = false)
    (h : meaning? shell octet rest = some (value, ahead)) :
    (octet = backslash ∧ value = (rest.take 1).filter (· ≠ newline) ∧ ahead = 1) ∨
    ∃ name, name = rest.takeWhile continuesName ∧ 0 < name.length ∧ value = shell.value name ∧
      ahead = name.length := by
  rw [meaning?, special, if_neg Bool.false_ne_true] at h
  split at h
  · rename_i escape
    obtain ⟨rfl, rfl⟩ := Prod.mk.inj (Option.some.inj h)
    exact .inl ⟨escape, rfl, rfl⟩
  · split at h
    · rename_i named
      obtain ⟨rfl, rfl⟩ := Prod.mk.inj (Option.some.inj h)
      exact .inr ⟨_, rfl, length_name_pos named.2, rfl, rfl⟩
    · cases h

/-- What an octet of the directory stands for ends in the directory. -/
theorem ahead_le_of_meaning? (h : meaning? shell octet (rest ++ closing) = some (value, ahead)) :
    ahead ≤ rest.length := by
  cases itself : standsForItself octet (rest ++ closing) with
  | true =>
    rw [meaning?_of_standsForItself itself] at h
    cases h
    exact Nat.zero_le _
  | false =>
    rcases meaning?_cases itself h with ⟨rfl, -, rfl⟩ | ⟨name, taken, -, -, rfl⟩
    · -- A backslash at the end of the directory would stand for itself.
      refine List.length_pos_iff.mpr ?_
      rintro rfl
      exact absurd itself (by decide)
    · rw [taken, takeWhile_append_closing]
      exact (List.takeWhile_prefix _).length_le

/-- An octet with a meaning takes at least as many octets as it gives, if the values of the
parameters are short. -/
theorem length_le_of_meaning? (short : ∀ name, (shell.value name).length ≤ 1)
    (special : standsForItself octet rest = false)
    (h : meaning? shell octet rest = some (value, ahead)) : value.length ≤ ahead := by
  rcases meaning?_cases special h with ⟨-, rfl, rfl⟩ | ⟨name, -, named, rfl, rfl⟩
  · exact Nat.le_trans (List.length_filter_le _ _) (List.length_take_le 1 rest)
  · exact Nat.le_trans (short name) named

/-- The octets of the directory are read one meaning after another. -/
theorem expand_cons_append_closing (shell : Parameters) (octet : UInt8) (rest : Bytes) :
    expand shell 0 (octet :: (rest ++ closing)) =
      (meaning? shell octet (rest ++ closing)).bind fun meaning =>
        (expand shell meaning.2 (rest ++ closing)).map (meaning.1 ++ ·) := by
  have more : rest ++ closing ≠ [] := List.append_ne_nil_of_right_ne_nil rest (by decide)
  rw [expand, if_neg fun ends => more ends.2]

/-- What is read of a directory begins with what its first octet stands for. -/
theorem exists_meaning?_of_expand (h : expand shell 0 (octet :: (rest ++ closing)) = some path) :
    ∃ value ahead later, meaning? shell octet (rest ++ closing) = some (value, ahead) ∧
      expand shell ahead (rest ++ closing) = some later ∧ path = value ++ later := by
  rw [expand_cons_append_closing] at h
  obtain ⟨⟨value, ahead⟩, meaning, read⟩ := Option.bind_eq_some_iff.mp h
  obtain ⟨later, continued, rfl⟩ := Option.map_eq_some_iff.mp read
  exact ⟨value, ahead, later, meaning, continued, rfl⟩

/-- **The search path comes last**, behind a colon and behind what the directory is read as. That
has no more octets than the directory if the values of the parameters are short. -/
theorem exists_eq_append_of_expand (inside : ahead ≤ directory.length)
    (h : expand shell ahead (directory ++ closing) = some path) :
    ∃ front, path = front ++ SearchPath.colon :: shell.searchPath ∧
      ((∀ name, (shell.value name).length ≤ 1) → front.length + ahead ≤ directory.length) := by
  induction directory generalizing ahead path with
  | nil =>
    obtain rfl := Nat.le_zero.mp inside
    rw [List.nil_append, expand_closing] at h
    cases h
    exact ⟨[], rfl, fun _ => Nat.le_refl 0⟩
  | cons octet rest ih =>
    cases ahead with
    | succ ahead =>
      -- The octet belongs to a meaning that begins before it.
      obtain ⟨front, rfl, bound⟩ := ih (Nat.le_of_succ_le_succ inside) h
      exact ⟨front, rfl, fun short => Nat.succ_le_succ (bound short)⟩
    | zero =>
      obtain ⟨value, ahead, later, meaning, read, rfl⟩ := exists_meaning?_of_expand h
      obtain ⟨front, rfl, bound⟩ := ih (ahead_le_of_meaning? meaning) read
      refine ⟨value ++ front, (List.append_assoc _ _ _).symm, fun short => ?_⟩
      have shorter := bound short
      have given : value.length ≤ ahead + 1 := by
        cases itself : standsForItself octet (rest ++ closing) with
        | true =>
          rw [meaning?_of_standsForItself itself] at meaning
          cases meaning
          exact Nat.le_refl 1
        | false => exact Nat.le_succ_of_le (length_le_of_meaning? short itself meaning)
      rw [List.length_append, List.length_cons]
      omega

/-- **A plain directory is read as it is.** -/
theorem expand_append_closing (plain : isPlain directory = true) :
    expand shell 0 (directory ++ closing) =
      some (directory ++ SearchPath.colon :: shell.searchPath) := by
  induction directory with
  | nil => exact expand_closing shell
  | cons octet rest ih =>
    obtain ⟨itself, plain⟩ := (Bool.and_eq_true _ _).mp plain
    rw [← standsForItself_append_closing] at itself
    rw [List.cons_append, expand_cons_append_closing, meaning?_of_standsForItself itself,
      Option.bind_some, ih plain]
    rfl

/-- **No other directory is read as it is**, not even by a shell in which no parameter has a long
value: something of it is lost. -/
theorem isPlain_of_expand (short : ∀ name, (shell.value name).length ≤ 1)
    (h : expand shell 0 (directory ++ closing) =
      some (directory ++ SearchPath.colon :: shell.searchPath)) : isPlain directory = true := by
  induction directory with
  | nil => rfl
  | cons octet rest ih =>
    obtain ⟨value, ahead, later, meaning, read, same⟩ := exists_meaning?_of_expand h
    cases itself : standsForItself octet (rest ++ closing) with
    | true =>
      rw [meaning?_of_standsForItself itself] at meaning
      cases meaning
      obtain rfl := (List.cons.inj same).2
      rw [standsForItself_append_closing] at itself
      exact (Bool.and_eq_true _ _).mpr ⟨itself, ih read⟩
    | false =>
      -- The octet and those that belong to it are more than what they give, and nothing that comes
      -- later makes up for it.
      have given := length_le_of_meaning? short itself meaning
      obtain ⟨front, rfl, bound⟩ :=
        exists_eq_append_of_expand (ahead_le_of_meaning? meaning) read
      have shorter := bound short
      have lengths := congrArg List.length same
      simp only [List.length_append, List.length_cons] at lengths
      omega

/-! ## The line -/

/-- The line for a directory that is a text is read behind its opening. -/
theorem evaluate_exportLine (shell : Parameters) {update : PathUpdate}
    (text : Utf8.encode update.shown = update.directory) :
    evaluate shell (Utf8.encode update.exportLine) =
      expand shell 0 (update.directory ++ closing) := by
  have line : Utf8.encode update.exportLine = opening ++ (update.directory ++ closing) := by
    rw [PathUpdate.exportLine, Utf8.encode_append, Utf8.encode_append, text, List.append_assoc]
    rfl
  rw [evaluate, line, List.dropPrefix?_append_of_beq _ (beq_self_eq_true opening),
    Option.bind_some]

/-- A line puts a directory in front of those of a shell and does nothing else. -/
def PutsInFront (line directory : Bytes) (shell : Parameters) : Prop :=
  ∃ path, evaluate shell line = some path ∧
    SearchPath.entries path = directory :: shell.directories

/-- A search path that was unset or empty ends in an empty entry afterwards. -/
theorem getLast?_entries_of_expand (without : shell.directories = [])
    (h : expand shell 0 (directory ++ closing) = some path) :
    (SearchPath.entries path).getLast? = some [] := by
  obtain ⟨front, rfl, -⟩ := exists_eq_append_of_expand (Nat.zero_le _) h
  rw [SearchPath.entries, splitOn_append_cons_self, Parameters.directories_eq_nil_iff.mp without]
  exact List.getLast?_concat

/-- Any other search path has the directory in front afterwards. -/
theorem entries_append_searchPath (free : SearchPath.colon ∉ directory)
    (held : shell.directories ≠ []) :
    SearchPath.entries (directory ++ SearchPath.colon :: shell.searchPath) =
      directory :: shell.directories := by
  rw [SearchPath.entries, splitOn_append_cons_self, List.splitOn_eq_singleton free,
    Parameters.directories_of_ne_nil held]
  rfl

/-- A shell whose search path is the root directory, and in which nothing else is set. -/
def Parameters.bare : Parameters :=
  fun name => if name = Utf8.encode "PATH" then some [Path.slash] else none

/-- No parameter of that shell has a long value. -/
theorem Parameters.length_value_bare (name : Bytes) : (bare.value name).length ≤ 1 := by
  rw [value, bare]
  split
  · exact Nat.le_refl 1
  · exact Nat.zero_le 1

/-- That shell tells whether a directory is plain and has no colon. -/
theorem isPlain_of_entries (h : expand .bare 0 (directory ++ closing) = some path)
    (entries_eq : SearchPath.entries path = directory :: Parameters.bare.directories) :
    isPlain directory = true ∧ SearchPath.colon ∉ directory := by
  have free : SearchPath.colon ∉ directory :=
    SearchPath.colon_notMem_of_mem_entries (entries_eq ▸ List.mem_cons_self)
  have whole : path = directory ++ SearchPath.colon :: Parameters.bare.searchPath :=
    SearchPath.eq_of_entries_eq
      (entries_eq.trans (entries_append_searchPath free (by decide)).symm)
  exact ⟨isPlain_of_expand Parameters.length_value_bare (whole ▸ h), free⟩

end ExportLine

namespace Settings

open ExportLine

/-- The directory of the installed programs is a text. -/
@[simp] theorem encode_shown_binDirectory (settings : Settings) :
    Utf8.encode (⟨settings.binDirectory⟩ : PathUpdate).shown = settings.binDirectory := by
  have text : ∃ text, settings.binDirectory = Utf8.encode text := by
    have relative : Path.isAbsolute (Utf8.encode "bin") = false := by decide
    rw [binDirectory, Path.join, relative, if_neg Bool.false_ne_true]
    split
    · exact ⟨settings.root ++ "bin", (Utf8.encode_append _ _).symm⟩
    · refine ⟨settings.root ++ "/bin", ?_⟩
      rw [Utf8.encode_append]
      rfl
  obtain ⟨text, same⟩ := text
  rw [PathUpdate.shown, same, Utf8.lossy_encode]

/-- The directory of the installed programs has a name. -/
theorem binDirectory_ne_nil (settings : Settings) : settings.binDirectory ≠ [] := by
  have name : Utf8.encode "bin" ≠ [] := by decide
  rw [binDirectory, Path.join]
  split
  · exact name
  · split
    · exact List.append_ne_nil_of_right_ne_nil _ name
    · exact List.append_ne_nil_of_right_ne_nil _ (List.cons_ne_nil _ _)

/-- **Where the line can be used.** The line for the directory of the installed programs does what
it is for in every shell that has a search path exactly if the directory is plain and has no colon:
it sets the search path to the directory and the directories before, and does nothing else. In a
shell whose search path is unset or empty it never does, as an empty entry comes last. -/
theorem putsInFront_exportLine (settings : Settings) :
    let directory := settings.binDirectory
    let line := Utf8.encode (⟨directory⟩ : PathUpdate).exportLine
    ((∀ shell : Parameters, shell.directories ≠ [] → PutsInFront line directory shell) ↔
      isPlain directory = true ∧ SearchPath.colon ∉ directory) ∧
    (isPlain directory = true → ∀ shell : Parameters,
      evaluate shell line = some (directory ++ SearchPath.colon :: shell.searchPath)) ∧
    ∀ shell : Parameters, shell.directories = [] → ¬PutsInFront line directory shell ∧
      ∀ path, evaluate shell line = some path → (SearchPath.entries path).getLast? = some [] := by
  intro directory line
  have read (shell : Parameters) : evaluate shell line = expand shell 0 (directory ++ closing) :=
    evaluate_exportLine shell settings.encode_shown_binDirectory
  have plainly (plain : isPlain directory = true) (shell : Parameters) :
      evaluate shell line = some (directory ++ SearchPath.colon :: shell.searchPath) :=
    (read shell).trans (expand_append_closing plain)
  have last (shell : Parameters) (without : shell.directories = []) (path : Bytes)
      (sets : evaluate shell line = some path) : (SearchPath.entries path).getLast? = some [] :=
    getLast?_entries_of_expand without ((read shell).symm.trans sets)
  refine ⟨⟨fun puts => ?_, fun ⟨plain, free⟩ shell held => ?_⟩, plainly,
    fun shell without => ⟨?_, last shell without⟩⟩
  · obtain ⟨path, sets, entries_eq⟩ := puts .bare (by decide)
    exact isPlain_of_entries ((read .bare).symm.trans sets) entries_eq
  · exact ⟨_, plainly plain shell, entries_append_searchPath free held⟩
  · -- An empty last entry would have to be the directory.
    rintro ⟨path, sets, entries_eq⟩
    have empty := last shell without path sets
    rw [entries_eq, without] at empty
    exact settings.binDirectory_ne_nil (Option.some.inj empty)

/-- A root with a dollar sign is accepted, and the line does not put its directory in front: the
shell takes the octets behind the dollar sign for the name of a parameter. -/
theorem not_putsInFront_exportLine_dollar :
    let known : Variables := fun name => if name = rootVariable then some "/opt/$x" else none
    let settings : Settings := ⟨"/opt/$x", "brew", "pip3"⟩
    let line := Utf8.encode (⟨settings.binDirectory⟩ : PathUpdate).exportLine
    ofVariables known = .ok settings ∧ Parameters.bare.directories = [Utf8.encode "/"] ∧
      evaluate .bare line = some (Utf8.encode "/opt//bin:/") ∧
      ¬PutsInFront line settings.binDirectory .bare := by
  intro known settings line
  have sets : evaluate .bare line = some (Utf8.encode "/opt//bin:/") := by decide +kernel
  have accepted : ofVariables known = .ok settings := by decide +kernel
  refine ⟨accepted, by decide +kernel, sets, ?_⟩
  rintro ⟨path, same, entries_eq⟩
  obtain rfl := Option.some.inj (sets.symm.trans same)
  exact absurd entries_eq (by decide +kernel)

end Settings

end HostProvision
