import HostProvision.Proofs.Homebrew.Listing
import HostProvision.Proofs.Text.Separators
import HostProvision.Proofs.Transcript
import HostProvision.Script

/-! # The check for newer versions

A formula of which there is a newer version makes the check end without success and is named in its
output, as the first word of a line.

* **A word leads a line**, `Text.LeadsLine`, if only blanks stand between it and the start of the
  line, and a blank or nothing behind it; `Homebrew.isNamed_iff` says that this is what is looked
  for.
* **Listings of outdated formulas**, `Homebrew.outdatedListing`, hold a name on each line, between
  blanks and with anything behind them; the names that are found in one are those that it was made
  of, `Homebrew.isNamed_outdatedListing_iff`.
* **The check has one of three results**, `Homebrew.outdated_partition`. -/

namespace HostProvision

variable {σ : Type}

namespace Text

/-! ## First words -/

/-- A text that does not go on with a character that is not blank. -/
def EndsWord (rest : List Char) : Prop :=
  ∀ c ∈ rest.head?, isBlank c = true

instance (rest : List Char) : Decidable (EndsWord rest) :=
  decidable_of_iff (rest.head?.all isBlank = true) (by cases rest <;> simp [EndsWord])

/-- A word: some characters, none of them blank. -/
structure IsWord (word : List Char) : Prop where
  solid : word ≠ []
  noBlank : ∀ c ∈ word, isBlank c = false

instance (word : List Char) : Decidable (IsWord word) :=
  decidable_of_iff (word ≠ [] ∧ word.all (!isBlank ·) = true)
    ⟨fun ⟨solid, noBlank⟩ => ⟨solid, by simpa using noBlank⟩,
      fun ⟨solid, noBlank⟩ => ⟨solid, by simpa using noBlank⟩⟩

/-- What stands behind the blanks at the front is taken up to the next blank. -/
theorem firstWord?_append {lead word rest : List Char} (blanks : ∀ c ∈ lead, isBlank c = true)
    (isWord : IsWord word) (ends : EndsWord rest) :
    firstWord? (lead ++ (word ++ rest)) = some word := by
  have start : trimStart (lead ++ (word ++ rest)) = word ++ rest := by
    rw [trimStart, List.dropWhile_append_of_pos blanks]
    cases word with
    | nil => exact absurd rfl isWord.solid
    | cons c word => exact trimStart_cons_of_not_blank _ (isWord.noBlank c List.mem_cons_self)
  have stops : rest.takeWhile (!isBlank ·) = [] := by
    cases rest with
    | nil => rfl
    | cons c rest => simp [ends c rfl]
  have goesOn : ∀ c ∈ word, (!isBlank c) = true := fun c mem => by simp [isWord.noBlank c mem]
  rw [firstWord?, start, List.takeWhile_append_of_pos goesOn, stops, List.append_nil]
  split
  · exact absurd rfl isWord.solid
  · rfl

/-- **The first word of a text** stands behind blanks only and is followed by one or by nothing. -/
theorem firstWord?_eq_some_iff {chars word : List Char} :
    firstWord? chars = some word ↔ IsWord word ∧ ∃ lead rest, chars = lead ++ (word ++ rest) ∧
      (∀ c ∈ lead, isBlank c = true) ∧ EndsWord rest := by
  constructor
  · intro first
    have taken : (trimStart chars).takeWhile (!isBlank ·) = word ∧ word ≠ [] := by
      rw [firstWord?] at first
      split at first
      · cases first
      · next more =>
        obtain rfl := Option.some.inj first
        exact ⟨rfl, more⟩
    obtain ⟨rfl, solid⟩ := taken
    refine ⟨⟨solid, fun c mem => ?_⟩, chars.takeWhile isBlank,
      (trimStart chars).dropWhile (!isBlank ·), ?_, List.all_eq_true.mp List.all_takeWhile, ?_⟩
    · simpa using List.all_eq_true.mp List.all_takeWhile c mem
    · rw [List.takeWhile_append_dropWhile, trimStart, List.takeWhile_append_dropWhile]
    · intro c head
      have stopped := List.head?_dropWhile_not (!isBlank ·) (trimStart chars)
      rw [head] at stopped
      simpa using stopped
  · rintro ⟨isWord, lead, rest, rfl, blanks, ends⟩
    exact firstWord?_append blanks isWord ends

/-- A blank at the end does not matter for the first word. -/
theorem firstWord?_append_singleton (chars : List Char) {c : Char} (blank : isBlank c = true) :
    firstWord? (chars ++ [c]) = firstWord? chars := by
  have taken (some : List Char) :
      (some ++ [c]).takeWhile (!isBlank ·) = some.takeWhile (!isBlank ·) := by
    induction some with
    | nil => simp [blank]
    | cons first others ih => simp [List.takeWhile_cons, ih]
  rw [firstWord?, firstWord?, trimStart, trimStart, List.dropWhile_append]
  by_cases allBlank : (chars.dropWhile isBlank).isEmpty
  · -- Nothing is left of a blank text, with or without the last character.
    have none : chars.dropWhile isBlank = [] := List.isEmpty_iff.mp allBlank
    simp [blank, none]
  · rw [if_neg allBlank, taken]

/-- The carriage return of a line end belongs to no word. -/
theorem firstWord?_dropCarriageReturn (line : List Char) :
    firstWord? (dropCarriageReturn line) = firstWord? line := by
  rw [dropCarriageReturn]
  split
  · next last =>
    obtain ⟨before, rfl⟩ := List.getLast?_eq_some_iff.mp last
    rw [List.dropLast_concat, firstWord?_append_singleton before (by decide)]
  · rfl

/-- A first word is sought in lines or in the pieces between line feeds. -/
theorem any_firstWord?_linesOfPieces (pieces : List (List Char)) (word : List Char) :
    (linesOfPieces pieces).any (firstWord? · = some word) =
      pieces.any (firstWord? · = some word) := by
  fun_induction linesOfPieces pieces with
  | case1 => rfl
  | case2 last empty => simp [List.isEmpty_iff.mp empty, firstWord?]
  | case3 last solid => rfl
  | case4 piece next rest ih =>
    rw [List.any_cons, List.any_cons, firstWord?_dropCarriageReturn, ih]

/-! ## Pieces -/

/-- A line begins behind this. -/
def BeginsLine (before : List Char) : Prop :=
  before = [] ∨ before.getLast? = some '\n'

/-- A piece stands between the places where a line begins and ends. -/
theorem exists_of_mem_pieces {chars piece : List Char} (mem : piece ∈ pieces chars) :
    '\n' ∉ piece ∧ ∃ before after, chars = before ++ (piece ++ after) ∧
      BeginsLine before ∧ (after = [] ∨ after.head? = some '\n') := by
  by_cases feed : '\n' ∈ chars
  · obtain ⟨first, others, rfl, oneLine⟩ := List.eq_append_cons_of_mem feed
    rw [pieces, List.splitOn_append_cons_self_of_not_mem oneLine, ← pieces] at mem
    rcases List.mem_cons.mp mem with rfl | later
    · exact ⟨oneLine, [], '\n' :: others, rfl, .inl rfl, .inr rfl⟩
    · obtain ⟨alone, before, after, rfl, begins, ends⟩ := exists_of_mem_pieces later
      refine ⟨alone, first ++ '\n' :: before, after, by simp, .inr ?_, ends⟩
      rcases begins with rfl | begins
      · simp
      · simp [List.getLast?_cons, begins]
  · rw [pieces, List.splitOn_eq_singleton feed, List.mem_singleton] at mem
    subst mem
    exact ⟨feed, [], [], by simp, .inl rfl, .inl rfl⟩
termination_by chars.length
decreasing_by
  subst_vars
  simp only [List.length_append, List.length_cons]
  omega

/-- **The pieces of a text** stand between the places where lines begin and end. -/
theorem mem_pieces_iff {chars piece : List Char} :
    piece ∈ pieces chars ↔ '\n' ∉ piece ∧ ∃ before after, chars = before ++ (piece ++ after) ∧
      BeginsLine before ∧ (after = [] ∨ after.head? = some '\n') := by
  constructor
  · exact exists_of_mem_pieces
  · rintro ⟨oneLine, before, after, rfl, begins, ends⟩
    have mem : piece ∈ pieces (piece ++ after) := by
      rcases ends with rfl | ends
      · rw [List.append_nil, pieces, List.splitOn_eq_singleton oneLine]
        exact List.mem_singleton_self piece
      · obtain ⟨after, rfl⟩ := List.head?_eq_some_iff.mp ends
        rw [pieces, List.splitOn_append_cons_self_of_not_mem oneLine]
        exact List.mem_cons_self
    rcases begins with rfl | begins
    · exact mem
    · obtain ⟨before, rfl⟩ := List.getLast?_eq_some_iff.mp begins
      rw [List.append_assoc, List.singleton_append, pieces, splitOn_append_cons_self]
      exact List.mem_append_right _ mem

/-- A word leads a line of a text: it stands behind blanks at the start of the line, and nothing but
a blank follows it. -/
def LeadsLine (word chars : List Char) : Prop :=
  IsWord word ∧ ∃ before lead rest, chars = before ++ (lead ++ (word ++ rest)) ∧
    BeginsLine before ∧ (∀ c ∈ lead, isBlank c = true ∧ c ≠ '\n') ∧ EndsWord rest

/-- What leads a line is the first word of a piece. -/
theorem leadsLine_iff {word chars : List Char} :
    LeadsLine word chars ↔ ∃ piece ∈ pieces chars, firstWord? piece = some word := by
  constructor
  · rintro ⟨isWord, before, lead, rest, rfl, begins, blanks, ends⟩
    -- The piece goes on to the next line feed.
    have cut : rest = rest.takeWhile (· ≠ '\n') ++ rest.dropWhile (· ≠ '\n') :=
      List.takeWhile_append_dropWhile.symm
    have tail : EndsWord (rest.takeWhile (· ≠ '\n')) := by
      intro c head
      cases rest with
      | nil => cases head
      | cons first rest =>
        rw [List.takeWhile_cons] at head
        split at head
        · exact ends c head
        · cases head
    have behind : rest.dropWhile (· ≠ '\n') = [] ∨
        (rest.dropWhile (· ≠ '\n')).head? = some '\n' := by
      have stopped := List.head?_dropWhile_not (· ≠ '\n') rest
      cases left : rest.dropWhile (· ≠ '\n') with
      | nil => exact .inl rfl
      | cons c after =>
        rw [left] at stopped
        simpa using stopped
    refine ⟨lead ++ (word ++ rest.takeWhile (· ≠ '\n')), mem_pieces_iff.mpr ⟨?_, before,
      rest.dropWhile (· ≠ '\n'), ?_, begins, behind⟩,
      firstWord?_append (fun c mem => (blanks c mem).1) isWord tail⟩
    · simp only [List.mem_append, not_or]
      refine ⟨fun mem => (blanks _ mem).2 rfl, fun mem => ?_, fun mem => ?_⟩
      · exact absurd (isWord.noBlank _ mem) (by decide)
      · simpa using List.all_eq_true.mp List.all_takeWhile _ mem
    · rw [List.append_assoc, List.append_assoc, ← cut]
  · rintro ⟨piece, mem, first⟩
    obtain ⟨oneLine, before, after, rfl, begins, behind⟩ := mem_pieces_iff.mp mem
    obtain ⟨isWord, lead, rest, rfl, blanks, ends⟩ := firstWord?_eq_some_iff.mp first
    refine ⟨isWord, before, lead, rest ++ after, by simp, begins, fun c mem => ?_, ?_⟩
    · exact ⟨blanks c mem, fun feed => oneLine (List.mem_append_left _ (feed ▸ mem))⟩
    · intro c head
      cases rest with
      | cons first rest => exact ends c head
      | nil =>
        rcases behind with rfl | feed
        · cases head
        · obtain rfl := Option.some.inj (feed.symm.trans head)
          decide

end Text

namespace Homebrew

/-- **The name that is looked for leads a line.** -/
theorem isNamed_iff {name output : String} :
    isNamed name output = true ↔ Text.LeadsLine name.toList output.toList := by
  rw [isNamed, Text.lines, Text.any_firstWord?_linesOfPieces, Text.leadsLine_iff]
  simp

/-! ## Listings of outdated formulas -/

/-- A line of a listing of outdated formulas. Where a carriage return ends a line, it is one of the
blanks or belongs to what stands behind the name. -/
inductive OutdatedLine where
  /-- A line without a name. -/
  | blank (blanks : List Char) (allBlank : blanks.all Text.isBlank = true)
    (oneLine : '\n' ∉ blanks)
  /-- A line with a name, blanks in front of it and anything behind a further blank. -/
  | formula (lead : List Char) (name : String) (rest : List Char)
    (allBlank : lead.all Text.isBlank = true) (isWord : Text.IsWord name.toList)
    (ends : Text.EndsWord rest) (oneLine : '\n' ∉ lead ∧ '\n' ∉ rest)

namespace OutdatedLine

/-- A line as it is written. -/
def chars : OutdatedLine → List Char
  | blank blanks .. => blanks
  | formula lead name rest .. => lead ++ (name.toList ++ rest)

/-- The name on a line. -/
def name? : OutdatedLine → Option String
  | blank .. => none
  | formula _ name .. => some name

/-- A line has no line feed. -/
theorem lineFeed_notMem_chars (line : OutdatedLine) : '\n' ∉ line.chars := by
  cases line with
  | blank blanks allBlank oneLine => exact oneLine
  | formula lead name rest allBlank isWord ends oneLine =>
    simp only [chars, List.mem_append, not_or]
    exact ⟨oneLine.1, fun mem => absurd (isWord.noBlank _ mem) (by decide), oneLine.2⟩

/-- The first word of a line is the name on it. -/
theorem firstWord?_chars (line : OutdatedLine) :
    Text.firstWord? line.chars = line.name?.map String.toList := by
  cases line with
  | blank blanks allBlank oneLine =>
    rw [name?, Option.map_none, Option.eq_none_iff_forall_ne_some]
    intro word first
    obtain ⟨isWord, lead, rest, same, -, -⟩ := Text.firstWord?_eq_some_iff.mp first
    obtain ⟨c, mem⟩ := List.exists_mem_of_ne_nil word isWord.solid
    have inside : c ∈ blanks := by
      rw [show blanks = _ from same]
      simp [mem]
    have blank := List.all_eq_true.mp allBlank c inside
    rw [isWord.noBlank c mem] at blank
    cases blank
  | formula lead name rest allBlank isWord ends oneLine =>
    exact Text.firstWord?_append (List.all_eq_true.mp allBlank) isWord ends

end OutdatedLine

/-- A listing of outdated formulas: its lines with line feeds between them. Behind a line feed at
the end stands a line without anything. -/
def outdatedListing (lines : List OutdatedLine) : String :=
  String.ofList (['\n'].intercalate (lines.map OutdatedLine.chars))

/-- **The names that are found in a listing are those on its lines.** -/
theorem isNamed_outdatedListing_iff {lines : List OutdatedLine} {name : String} :
    isNamed name (outdatedListing lines) = true ↔ name ∈ lines.filterMap OutdatedLine.name? := by
  rw [isNamed, outdatedListing, String.toList_ofList, Text.lines, Text.any_firstWord?_linesOfPieces]
  cases lines with
  | nil => simp [Text.firstWord?]
  | cons line lines =>
    have pieces : Text.pieces (['\n'].intercalate ((line :: lines).map OutdatedLine.chars)) =
        (line :: lines).map OutdatedLine.chars := by
      refine List.splitOn_intercalate '\n' (fun chars mem => ?_) (by simp)
      obtain ⟨line, -, rfl⟩ := List.mem_map.mp mem
      exact line.lineFeed_notMem_chars
    have same (line : OutdatedLine) :
        (Text.firstWord? line.chars = some name.toList) ↔ line.name? = some name := by
      rw [line.firstWord?_chars, Option.map_eq_some_iff]
      simp [String.toList_inj]
    rw [pieces, List.any_map, List.any_eq_true, List.mem_filterMap]
    simp only [Function.comp_apply, decide_eq_true_eq, same]

/-! ## The procedure -/

/-- **The check is one command**, and its reply tells how it ends. -/
theorem run_outdated (brew : Homebrew) (name : String) :
    (brew.outdated name).run = .ask (.command .capture (brew.outdatedLine name)) fun answer =>
      match answer with
      | .ok reply => .notify (.event (.outdatedCheck name (statusOf reply name)))
          (.done (.ok (statusOf reply name)))
      | .error cause => .done (.error (.io cause)) := by
  refine congrArg (Procedure.ask _) (funext fun answer => ?_)
  cases answer <;> rfl

section Replied

variable {world : World σ} {state : σ} {brew : Homebrew} {name : String} {reply : Reply}
  (replied : (world.handle (.command .capture (brew.outdatedLine name)) state).answer = .ok reply)

include replied

/-- A check that is replied to asks for nothing else. -/
theorem calls_run_outdated : (world.run (brew.outdated name).run state).calls =
    [.command .capture (brew.outdatedLine name) (.ok reply)] := by
  rw [run_outdated, World.calls_run_ask, replied]
  rfl

/-- A check that is replied to has a result. -/
theorem value_run_outdated :
    (world.run (brew.outdated name).run state).value = .ok (statusOf reply name) := by
  rw [run_outdated, World.run]
  simp only [replied]
  rfl

end Replied

/-- A formula is up to date exactly after a reply of success, outdated exactly after another reply
that names it, and its check has failed exactly after another one that does not. -/
theorem statusOf_eq_iff (reply : Reply) (name : String) :
    (statusOf reply name = .upToDate ↔ reply.code = some 0) ∧
    (statusOf reply name = .outdated ↔
      reply.code ≠ some 0 ∧ isNamed name reply.stdout = true) ∧
    (statusOf reply name = .checkFailed ↔
      reply.code ≠ some 0 ∧ ¬isNamed name reply.stdout = true) := by
  rw [statusOf, Reply.succeeded]
  by_cases success : reply.code = some 0
  · simp [success]
  · by_cases named : isNamed name reply.stdout = true <;> simp [success, named]

/-- **The check has one of three results.** Whatever is replied to its one command, the formula is
up to date if the reply is one of success, it is outdated if the reply is another one and the name
leads a line of what was printed, and otherwise the check has failed. So a listing of outdated
formulas tells of those that it was made of and of no others, and only a word can be outdated. -/
theorem outdated_partition (world : World σ) (state : σ) (brew : Homebrew) (name : String)
    (reply : Reply)
    (replied :
      (world.handle (.command .capture ⟨brew.executable, ["outdated", name]⟩) state).answer =
        .ok reply) :
    let run := world.run (brew.outdated name).run state
    run.calls = [.command .capture ⟨brew.executable, ["outdated", name]⟩ (.ok reply)] ∧
    ∃ status, run.value = .ok status ∧
      (status = .upToDate ↔ reply.code = some 0) ∧
      (status = .outdated ↔
        reply.code ≠ some 0 ∧ Text.LeadsLine name.toList reply.stdout.toList) ∧
      (status = .checkFailed ↔
        reply.code ≠ some 0 ∧ ¬Text.LeadsLine name.toList reply.stdout.toList) ∧
      (∀ lines : List OutdatedLine, reply.stdout = outdatedListing lines → reply.code ≠ some 0 →
        (status = .outdated ↔ name ∈ lines.filterMap OutdatedLine.name?)) ∧
      ((name = "" ∨ ∃ c ∈ name.toList, Text.isBlank c = true) → status ≠ .outdated) := by
  obtain ⟨upToDate, outdated, checkFailed⟩ := statusOf_eq_iff reply name
  refine ⟨calls_run_outdated replied, statusOf reply name, value_run_outdated replied, upToDate,
    ?_, ?_, ?_, ?_⟩
  · rw [outdated, isNamed_iff]
  · rw [checkFailed, isNamed_iff]
  · intro lines printed failed
    rw [outdated, printed, isNamed_outdatedListing_iff]
    exact and_iff_right failed
  · intro improper counted
    obtain ⟨isWord, -⟩ := isNamed_iff.mp (outdated.mp counted).2
    rcases improper with rfl | ⟨c, mem, blank⟩
    · exact isWord.solid rfl
    · rw [isWord.noBlank c mem] at blank
      cases blank

/-- A listing in which one formula stands at the front of another one's name and again behind it,
and the last one behind a blank that is no space; its lines end in different ways. -/
def siblingListing : List OutdatedLine :=
  [.formula [] "gcc@6" " (6.1) < gcc 6.2\r".toList (by decide) (by decide) (by decide) (by decide),
    .blank "\t\r".toList (by decide) (by decide),
    .formula ['\u00a0'] "cmake" [] (by decide) (by decide) (by decide) (by decide)]

/-- In that listing one formula is outdated and one that is only mentioned is not, and neither is a
name with a blank. -/
theorem outdated_partition_siblings :
    let brew : Homebrew := ⟨"brew"⟩
    let reply : Reply := ⟨some 1, "gcc@6 (6.1) < gcc 6.2\r\n\t\r\n\u00a0cmake"⟩
    let lines := ["brew outdated cmake", "brew outdated gcc", "brew outdated gcc 6.2"]
    let script : Script := ⟨lines.map fun line => (line, .ok reply), []⟩
    let result := fun name => (Script.world.run (brew.outdated name).run script).value
    (reply.stdout = outdatedListing siblingListing ∧ reply.code ≠ some 0) ∧
      (∃ status, result "cmake" = .ok status ∧ status = .outdated) ∧
      (∃ status, result "gcc" = .ok status ∧ status ≠ .outdated) ∧
      ∃ status, result "gcc 6.2" = .ok status ∧ status ≠ .outdated := by
  intro brew reply lines script result
  have printed : reply.stdout = outdatedListing siblingListing := by decide
  have failed : reply.code ≠ some 0 := by decide
  refine ⟨⟨printed, failed⟩, ?_, ?_, ?_⟩
  · obtain ⟨-, status, value, -, -, -, listed, -⟩ :=
      outdated_partition Script.world script brew "cmake" reply rfl
    exact ⟨status, value, (listed siblingListing printed failed).mpr (by decide)⟩
  · obtain ⟨-, status, value, -, -, -, listed, -⟩ :=
      outdated_partition Script.world script brew "gcc" reply rfl
    exact ⟨status, value, mt (listed siblingListing printed failed).mp (by decide)⟩
  · obtain ⟨-, status, value, -, -, -, -, improper⟩ :=
      outdated_partition Script.world script brew "gcc 6.2" reply rfl
    exact ⟨status, value, improper (.inr ⟨' ', by decide, by decide⟩)⟩

end Homebrew

end HostProvision
