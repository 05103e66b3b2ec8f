import HostProvision.Proofs.Cli.Publication
import HostProvision.Proofs.Text.LineFeeds
import HostProvision.Proofs.Text.Separators

/-! # Lines of the path file

The file that collects search path entries has one on each line. What is there before may have been
left by anybody, and nobody looks whether its last line was ended.

* `Cli.fileLines` are the lines of a file, and `Cli.Ended` says that a further line may begin.
* Lines are counted from any place where one may begin, `Cli.fileLines_append_of_ended`.
* **What the path file gains**, `Cli.RunOptions.appendToPathFile_gains`: it is one more line, the
  directory, exactly if the file was ended and the directory has no line feed. A file that was not
  ended has the directory joined to its last line. -/

namespace HostProvision

variable {σ : Type}

open Utf8

namespace Cli

/-! ## Lines -/

/-- The pieces of a file without an empty one at the end. -/
def withoutEmptyEnd (pieces : List Bytes) : List Bytes :=
  if pieces.getLast? = some [] then pieces.dropLast else pieces

/-- The lines of a file: what stands before each line feed, and what stands behind the last one if
that is anything. -/
def fileLines (content : Bytes) : List Bytes :=
  withoutEmptyEnd (content.splitOn lineFeed)

/-- What is added to a file begins a line of its own. -/
def Ended (content : Bytes) : Prop :=
  content = [] ∨ content.getLast? = some lineFeed

instance (content : Bytes) : Decidable (Ended content) :=
  inferInstanceAs (Decidable (_ ∨ _))

/-- Only the end of a list of pieces is looked at. -/
theorem withoutEmptyEnd_append (first : List Bytes) {second : List Bytes} (some : second ≠ []) :
    withoutEmptyEnd (first ++ second) = first ++ withoutEmptyEnd second := by
  rw [withoutEmptyEnd, withoutEmptyEnd, List.getLast?_append_of_ne_nil first some]
  split
  · exact List.dropLast_append_of_ne_nil some
  · rfl

/-- A line feed at the end ends the last of the lines. -/
theorem fileLines_terminated (content : Bytes) :
    fileLines (content ++ [lineFeed]) = content.splitOn lineFeed := by
  rw [fileLines, splitOn_append_cons_self, withoutEmptyEnd_append _ (List.splitOn_ne_nil _ _)]
  exact List.append_nil _

/-- What has no line feed is one line, if it is anything. -/
theorem fileLines_of_not_mem {content : Bytes} (none : lineFeed ∉ content) (solid : content ≠ []) :
    fileLines content = [content] := by
  rw [fileLines, List.splitOn_eq_singleton none, withoutEmptyEnd]
  exact if_neg fun empty => solid (Option.some.inj empty)

/-- **Lines are counted from any place where one may begin.** -/
theorem fileLines_append_of_ended {content : Bytes} (ended : Ended content) (added : Bytes) :
    fileLines (content ++ added) = fileLines content ++ fileLines added := by
  rcases ended with rfl | last
  · rfl
  · obtain ⟨before, rfl⟩ := List.getLast?_eq_some_iff.mp last
    rw [fileLines_terminated, List.append_assoc, fileLines, List.singleton_append,
      splitOn_append_cons_self, withoutEmptyEnd_append _ (List.splitOn_ne_nil _ _), fileLines]

/-- Every file is ended up to some place, behind which there is no line feed. -/
theorem exists_ended_append (content : Bytes) :
    ∃ ended tail, content = ended ++ tail ∧ Ended ended ∧ lineFeed ∉ tail := by
  induction content using List.reverseRecOn with
  | nil => exact ⟨[], [], rfl, .inl rfl, List.not_mem_nil⟩
  | append_singleton before octet ih =>
    by_cases feed : octet = lineFeed
    · exact ⟨before ++ [octet], [], (List.append_nil _).symm, .inr (by simp [feed]),
        List.not_mem_nil⟩
    · obtain ⟨ended, tail, rfl, h, none⟩ := ih
      exact ⟨ended, tail ++ [octet], List.append_assoc .., h, by simp [none, Ne.symm feed]⟩

/-! ## What is added -/

/-- A directory that is added to an ended file is a line, or several of them. -/
theorem fileLines_of_ended {content : Bytes} (ended : Ended content) (directory : Bytes) :
    fileLines (content ++ (directory ++ [lineFeed])) =
      fileLines content ++ directory.splitOn lineFeed := by
  rw [fileLines_append_of_ended ended, fileLines_terminated]

/-- A directory that is added to a file that is not ended begins on its last line. -/
theorem fileLines_of_not_ended {content : Bytes} (unended : ¬Ended content) (directory : Bytes) :
    ∃ earlier last first rest, fileLines content = earlier ++ [last] ∧ last ≠ [] ∧
      directory.splitOn lineFeed = first :: rest ∧
      fileLines (content ++ (directory ++ [lineFeed])) = earlier ++ (last ++ first) :: rest := by
  obtain ⟨ended, tail, rfl, h, none⟩ := exists_ended_append content
  have solid : tail ≠ [] := fun empty => unended (by rwa [empty, List.append_nil])
  obtain ⟨first, rest, pieces⟩ := List.exists_cons_of_ne_nil (List.splitOn_ne_nil lineFeed directory)
  refine ⟨fileLines ended, tail, first, rest, ?_, solid, pieces, ?_⟩
  · rw [fileLines_append_of_ended h, fileLines_of_not_mem none solid]
  · rw [List.append_assoc, ← List.append_assoc tail, fileLines_append_of_ended h,
      fileLines_terminated, splitOn_append_of_not_mem none, pieces, List.modifyHead_cons]

/-- **One line is added**, the directory, exactly to an ended file and by a directory without a line
feed. -/
theorem fileLines_append_eq_iff {content directory : Bytes} :
    fileLines (content ++ (directory ++ [lineFeed])) = fileLines content ++ [directory] ↔
      Ended content ∧ lineFeed ∉ directory := by
  have whole : [lineFeed].intercalate (directory.splitOn lineFeed) = directory :=
    List.intercalate_splitOn lineFeed
  by_cases ended : Ended content
  · rw [fileLines_of_ended ended, List.append_right_inj, and_iff_right ended]
    exact splitOn_eq_singleton_iff
  · obtain ⟨earlier, last, first, rest, lines, -, pieces, joined⟩ :=
      fileLines_of_not_ended ended directory
    refine ⟨fun same => ?_, fun h => absurd h.1 ended⟩
    rw [joined, lines, List.append_assoc, List.append_right_inj] at same
    -- The directory would be a line feed longer than itself.
    simp only [List.singleton_append, List.cons.injEq, List.append_right_eq_self] at same
    obtain ⟨rfl, rfl⟩ := same
    rw [pieces] at whole
    have longer := congrArg List.length whole
    simp at longer

namespace RunOptions

/-- Adding to a path file is seen as what is added to it. -/
theorem see_appendToPathFile (runner : Runner σ) (state : σ) (files : Bytes → Target)
    (file : String) (update : PathUpdate) :
    let appended := (files (encode file)).append (pathFileContent update)
    runner.see (appendToPathFile file update).run state files =
      ⟨appended.1.mapError fun cause => .pathFile file cause.message, [],
        Function.update files (encode file) appended.2⟩ := by
  change runner.see (.ask (.append (encode file) (pathFileContent update)) _) state files = _
  rw [Runner.see_append]
  cases files (encode file) <;> rfl

/-- **What the path file gains.** Adding the directory of the installed programs succeeds exactly if
the file can be opened. Then the octets of the file are followed by those of the directory and a line
feed, and no other file is changed. The file has one more line, which is the directory, exactly if it
was ended and the directory has no line feed: an ended file gains a line for each piece of the
directory, and the last line of any other file goes on with the first of them. -/
theorem appendToPathFile_gains (runner : Runner σ) (state : σ) (files : Bytes → Target)
    (file : String) (settings : Settings) :
    let path := encode file
    let directory := settings.binDirectory
    let before := (files path).content
    let seen := runner.see (appendToPathFile file ⟨directory⟩).run state files
    let after := (seen.files path).content
    (seen.value = .ok () ↔ (files path).IsOpen) ∧
    (seen.value = .ok () →
      after = before ++ directory ++ [lineFeed] ∧
      seen.files = Function.update files path (.file after) ∧
      (fileLines after = fileLines before ++ [directory] ↔
        Ended before ∧ lineFeed ∉ directory) ∧
      (Ended before → fileLines after = fileLines before ++ directory.splitOn lineFeed) ∧
      (¬Ended before → ∃ earlier last first rest,
        fileLines before = earlier ++ [last] ∧ last ≠ [] ∧
        directory.splitOn lineFeed = first :: rest ∧
        fileLines after = earlier ++ (last ++ first) :: rest)) := by
  intro path directory before seen after
  have appended : seen = _ := see_appendToPathFile runner state files file ⟨directory⟩
  rw [pathFileContent_binDirectory] at appended
  have succeeds : seen.value = .ok () ↔ (files path).IsOpen := by
    rw [appended]
    cases files path <;> simp [Target.append, Target.IsOpen, Except.mapError]
  refine ⟨succeeds, fun success => ?_⟩
  rw [Target.append_of_isOpen (succeeds.mp success)] at appended
  have changed : seen.files =
      Function.update files path (.file (before ++ (directory ++ [lineFeed]))) :=
    congrArg Seen.files appended
  have content : after = before ++ (directory ++ [lineFeed]) := by
    refine (congrArg Target.content (congrFun changed path)).trans ?_
    rw [Function.update_self]
    rfl
  rw [content]
  exact ⟨(List.append_assoc ..).symm, changed, fileLines_append_eq_iff,
    fun ended => fileLines_of_ended ended directory,
    fun unended => fileLines_of_not_ended unended directory⟩

/-- A file that is not ended gains no line. Neither does any file gain a single line from an
installation root with a line feed, and yet that is accepted. -/
theorem not_gains_line_unended :
    let seen (settings : Settings) (content : String) := Host.Machine.runner.see
      (appendToPathFile "path" ⟨settings.binDirectory⟩).run ⟨.standard, [], []⟩
      fun _ => .file (encode content)
    let gains (settings : Settings) (content : String) : Prop :=
      fileLines ((seen settings content).files (encode "path")).content =
        fileLines (encode content) ++ [settings.binDirectory]
    let usual : Settings := ⟨"/usr/local", "brew", "pip3"⟩
    let broken : Settings := ⟨"/opt\nbrew", "brew", "pip3"⟩
    (Settings.ofVariables (fun _ => none) = .ok usual ∧
      (seen usual "/already/there").value = .ok () ∧ ¬gains usual "/already/there") ∧
    (Settings.ofVariables (fun name => if name = Settings.rootVariable then some "/opt\nbrew"
        else none) = .ok broken ∧
      (seen broken "").value = .ok () ∧ ¬gains broken "") := by
  intro seen gains usual broken
  refine ⟨⟨rfl, rfl, ?_⟩, rfl, rfl, ?_⟩
  · show ¬ fileLines _ = _
    decide
  · show ¬ fileLines _ = _
    decide

end RunOptions

end Cli

end HostProvision
