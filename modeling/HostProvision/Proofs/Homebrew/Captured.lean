import HostProvision.Host.World
import HostProvision.Proofs.Homebrew.Listing
import HostProvision.Proofs.Text.LineFeeds
import HostProvision.Script

/-! # Captured listings

The listing of installed formulas as the octets that a process printed. They are shown as text before
they are cut into lines, and yet no line has a say in how another one is read.

* `Homebrew.printedNames` cuts the octets first and reads each piece alone;
  `Homebrew.listedNames_lossy` says that this finds the same names.
* A name without U+FFFD is among them if one of the pieces is well formed and is that name between
  blank ends, `Homebrew.mem_printedNames_iff`.
* **A captured listing is read line by line**, `Homebrew.captured_listing_read`, whatever octets the
  process printed. -/

namespace HostProvision

variable {σ : Type}

namespace Text

/-- What is not blank is not trimmed off. -/
theorem mem_trim {chars : List Char} {c : Char} (mem : c ∈ chars) (solid : isBlank c = false) :
    c ∈ trim chars := by
  have kept {chars : List Char} (mem : c ∈ chars) : c ∈ chars.dropWhile isBlank := by
    have parts := List.takeWhile_append_dropWhile (p := isBlank) (l := chars)
    refine (List.mem_append.mp (parts.symm ▸ mem)).resolve_left fun early => ?_
    rw [List.all_eq_true.mp (List.all_takeWhile ..) c early] at solid
    cases solid
  rw [trim, trimEnd, List.mem_reverse]
  exact kept (List.mem_reverse.mpr (kept mem))

end Text

namespace Host.Machine

/-- A machine on which a command ends replies with what was captured. -/
theorem answer_capture {machine after : Machine} {line : CommandLine} {finished : Finished}
    (executed : machine.execute line = .ok (finished, after)) :
    (world.handle (.command .capture line) machine).answer = .ok finished.captured := by
  simp only [world, capture, executed]

end Host.Machine

open Utf8 Host

namespace Homebrew

/-! ## The names -/

/-- The names in a listing of octets: what stands between two line feeds, each piece read by itself
and without its blank ends, except for blank pieces. -/
def printedNames (output : Bytes) : List String :=
  ((output.splitOn lineFeed).map fun piece => Text.trimText (lossy piece)).filter (· ≠ "")

/-- **The names in a text that was shown for octets** are those in the octets. -/
theorem listedNames_lossy (output : Bytes) : listedNames (lossy output) = printedNames output := by
  have solid (chars : List Char) : decide (String.ofList chars ≠ "") = !chars.isEmpty := by
    cases chars <;> simp [← String.toList_inj]
  rw [listedNames_eq, pieces_lossy, printedNames, List.map_map]
  induction output.splitOn lineFeed with
  | nil => rfl
  | cons piece rest ih =>
    simp only [List.map_cons, List.filter_cons, Function.comp_apply, Text.trimText, solid] at ih ⊢
    split <;> simp [ih]

/-- A name without U+FFFD is listed if one piece is well formed, and is that name between blank
ends. -/
theorem mem_printedNames_iff {output : Bytes} {name : String}
    (plain : replacement ∉ name.toList) :
    name ∈ printedNames output ↔ name ≠ "" ∧ ∃ piece ∈ output.splitOn lineFeed,
      ∃ text, decode? piece = some text ∧ Text.trimText text = name := by
  simp only [printedNames, List.mem_filter, List.mem_map, decide_eq_true_eq]
  constructor
  · rintro ⟨⟨piece, mem, rfl⟩, solid⟩
    -- U+FFFD is not blank, so none was shown for the piece.
    refine ⟨solid, piece, mem, lossy piece, decode?_of_replacement_not_mem fun shown => ?_, rfl⟩
    rw [Text.trimText, String.toList_ofList] at plain
    exact plain (Text.mem_trim shown (by decide))
  · rintro ⟨solid, piece, mem, text, read, rfl⟩
    rw [decode?_eq_some_iff] at read
    exact ⟨⟨piece, mem, by rw [read, lossy_encode]⟩, solid⟩

/-! ## The procedure -/

variable {world : World σ} {state : σ} {brew : Homebrew}

/-- A listing that passes is read. -/
theorem value_listInstalled {listing : Reply} (passed : listing.succeeded = true)
    (listed : (world.handle (.command .capture brew.listLine) state).answer = .ok listing) :
    (world.run brew.listInstalled.run state).value = .ok (listedNames listing.stdout) := by
  simp only [listInstalled, Step.commandChecked, Step.command, ExceptT.run_bind, ExceptT.run_mk,
    World.run_bind, Procedure.request, World.run, listed, Procedure.pure_eq_done, Step.ofExcept,
    Reply.check_of_succeeded _ passed]
  rfl

/-- The answer for a name is whether it is among those that are read. -/
theorem value_isInstalled {names : List String} (name : String)
    (read : (world.run brew.listInstalled.run state).value = .ok names) :
    (world.run (brew.isInstalled name).run state).value = .ok (names.contains name) := by
  rw [isInstalled, ExceptT.run_bind, World.run_bind]
  simp only [read]
  rfl

/-- **A captured listing is read line by line**, whatever octets were printed: the names are those of
the pieces, each read by itself, and a name without U+FFFD is installed if it is the text of a
well-formed piece between blank ends. The replies of a machine are captured that way. -/
theorem captured_listing_read (world : World σ) (state : σ) (brew : Homebrew)
    (finished : Machine.Finished) (exited : finished.ending = .exited 0)
    (captured : (world.handle (.command .capture brew.listLine) state).answer =
      .ok finished.captured) :
    (∀ (machine after : Machine), machine.execute brew.listLine = .ok (finished, after) →
      (Machine.world.handle (.command .capture brew.listLine) machine).answer =
        .ok finished.captured) ∧
    (world.run brew.listInstalled.run state).value = .ok (printedNames finished.output) ∧
    ∀ name : String, replacement ∉ name.toList →
      ∃ answer, (world.run (brew.isInstalled name).run state).value = .ok answer ∧
        (answer = true ↔ name ≠ "" ∧ ∃ piece ∈ finished.output.splitOn lineFeed,
          ∃ text, decode? piece = some text ∧ Text.trimText text = name) := by
  have passed : finished.captured.succeeded = true := by
    rw [Machine.Finished.captured, exited]
    rfl
  have read := value_listInstalled passed captured
  rw [Machine.Finished.captured, listedNames_lossy] at read
  refine ⟨fun machine after => Machine.answer_capture, read, fun name plain => ?_⟩
  exact ⟨_, value_isInstalled name read,
    List.contains_iff_mem.trans (mem_printedNames_iff plain)⟩

/-- A listing in which a sequence breaks off before the first line feed, and the last line is not
ended. -/
theorem captured_listing_read_brokenOff :
    let output := encode "wget" ++ [0xE2, 0x82] ++ encode "\n cmake\r\n\nwget"
    let script : Script := ⟨[("brew list -1", .ok ⟨some 0, lossy output⟩)], []⟩
    (Script.world.run (Homebrew.mk "brew").listInstalled.run script).value =
      .ok ["wget\uFFFD", "cmake", "wget"] :=
  (captured_listing_read Script.world _ ⟨"brew"⟩
    ⟨.exited 0, encode "wget" ++ [0xE2, 0x82] ++ encode "\n cmake\r\n\nwget", [], []⟩ rfl rfl).2.1

end Homebrew

end HostProvision
