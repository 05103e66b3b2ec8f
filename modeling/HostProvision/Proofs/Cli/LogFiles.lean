import HostProvision.Proofs.Cli.Demand
import HostProvision.Proofs.Parallel

/-! # Log files

With a directory for log files an invocation opens these before it carries its command out. What it
shows then differs in two ways: a note about the directory is added, and once the files are open,
messages finer than the detail asked for on the command line are no longer shown, whatever the
filter says.

* **The ceiling**, `Display.foldl_entry_capped`: what is shown under a ceiling is what would be
  shown of the entries that are within it.
* **What log files add**, `Program.AddsLogs`: result, calls, output and what is added to files are
  the same, and the diagnostics are those of the entries within the ceiling, with the note.
* **Log files are added**, `Program.logDirectory_adds`: that is what an invocation does, and it does
  so compared with one on the same host without a directory if the command does not notice the
  directory otherwise. If a log file is refused, the invocation breaks off instead.
* **Messages that the filter shows can be lost**, `Program.not_addsNote_debug`. -/

namespace HostProvision

variable {σ α : Type}

/-- An entry that is shown up to a detail, if it is shown at all: no finer log message. -/
def Entry.isWithin (detail : Nat) : Entry → Bool
  | .told (.event event) => event.level.detail ≤ detail
  | .told _ | .exchange .. => true

/-- Lines are within every detail. -/
theorem Entry.filter_isWithin_lines (detail : Nat) (lines : List Bytes) :
    ((lines.map Notice.diagnostics).map told).filter (isWithin detail) =
      (lines.map Notice.diagnostics).map told := by
  rw [List.map_map, List.filter_eq_self]
  intro entry mem
  obtain ⟨octets, -, rfl⟩ := List.mem_map.mp mem
  rfl

/-- An entry that is not about opening log files. -/
def Entry.KeepsLogs (entry : Entry) : Prop :=
  ∀ directory answer, entry ≠ .exchange (.openLogs directory) answer

/-- Log files are only opened by a procedure that asks for it. -/
theorem World.keepsLogs_of_within {tells : Notice → Prop} {world : World σ}
    {procedure : Procedure α}
    (h : procedure.Within tells fun request => ∀ directory, request ≠ .openLogs directory)
    (state : σ) : ∀ entry ∈ (world.run procedure state).entries, entry.KeepsLogs := by
  induction procedure generalizing state with
  | done value =>
    intro entry mem
    cases mem
  | notify notice next ih =>
    intro entry mem
    rcases List.mem_cons.mp mem with rfl | later
    · intro directory answer same
      cases same
    · exact ih h.2 state entry later
  | ask request next ih =>
    intro entry mem
    rw [run] at mem
    rcases List.mem_append.mp mem with told | mem
    · obtain ⟨notice, -, rfl⟩ := List.mem_map.mp told
      intro directory answer same
      cases same
    rcases List.mem_cons.mp mem with rfl | later
    · intro directory answer same
      cases same
      exact h.1 directory rfl
    · exact ih _ (h.2 _) _ entry later

namespace Cli

namespace Display

variable {filter : LogFilter} {detail : Nat}

/-- What has appeared, with other octets on the diagnostic stream before it. -/
def behind (before : List Bytes) (display : Display) : Display :=
  { display with diagnostics := before ++ display.diagnostics }

/-- What was shown before does not matter for an entry. -/
theorem entry_behind (before : List Bytes) (display : Display) (told : Entry) :
    entry filter detail (display.behind before) told =
      (entry filter detail display told).behind before := by
  cases told with
  | exchange request answer =>
    cases request with
    | openLogs directory => cases answer <;> rfl
    | clock | command _ _ | lookup _ | append _ _ => rfl
  | told notice =>
    cases notice with
    | event event =>
      have same : showsEvent filter (display.behind before) event =
          showsEvent filter display event := rfl
      simp only [entry, Display.notice, same]
      by_cases shows : showsEvent filter display event
      · rw [if_pos shows, if_pos shows, behind, behind, ← List.append_assoc]
      · rw [if_neg shows, if_neg shows]
    | diagnostics octets =>
      simp only [entry, Display.notice, behind, List.append_assoc]
    | output text | enter span | leave => rfl

/-- What was shown before does not matter for what is shown after it. -/
theorem foldl_entry_behind (before : List Bytes) (entries : List Entry) (display : Display) :
    entries.foldl (entry filter detail) (display.behind before) =
      (entries.foldl (entry filter detail) display).behind before := by
  induction entries generalizing display with
  | nil => rfl
  | cons told entries ih => rw [List.foldl_cons, List.foldl_cons, entry_behind, ih]

/-- What has appeared, with a ceiling on what is shown of log messages. -/
def capped (detail : Nat) (display : Display) : Display :=
  { display with ceiling := some detail }

/-- Under a ceiling an entry is shown as without it if it is within it, and otherwise not. -/
theorem entry_capped {display : Display} (uncapped : display.ceiling = none) {told : Entry}
    (keeps : told.KeepsLogs) :
    entry filter detail (display.capped detail) told =
        (if told.isWithin detail then (entry filter detail display told).capped detail
        else display.capped detail) ∧
      (entry filter detail display told).ceiling = none := by
  cases told with
  | exchange request answer =>
    -- Opening log files is the one request that moves the ceiling.
    cases request with
    | openLogs directory => exact absurd rfl (keeps directory answer)
    | clock | command _ _ | lookup _ | append _ _ => exact ⟨rfl, uncapped⟩
  | told notice =>
    cases notice with
    | event event =>
      have below : showsEvent filter (display.capped detail) event =
          (showsEvent filter display event && decide (event.level.detail ≤ detail)) := by
        simp only [showsEvent, capped, uncapped, Bool.and_true]
        rfl
      simp only [entry, Display.notice, below, Entry.isWithin]
      -- Within the ceiling it is up to the filter alone, beyond it nothing is shown.
      by_cases within : event.level.detail ≤ detail
      · by_cases shows : showsEvent filter display event
        · simp only [shows, within, decide_true, Bool.and_true, if_true]
          exact ⟨rfl, uncapped⟩
        · simp only [shows, within, decide_true, Bool.and_true, if_true]
          exact ⟨rfl, uncapped⟩
      · simp only [within, decide_false, Bool.and_false]
        refine ⟨rfl, ?_⟩
        by_cases shows : showsEvent filter display event
        · rw [if_pos shows]
          exact uncapped
        · rw [if_neg shows]
          exact uncapped
    | diagnostics octets | output text | enter span | leave => exact ⟨rfl, uncapped⟩

/-- **The ceiling.** As long as no log files are opened, what is shown under a ceiling is what would
be shown without it of the entries that are within it. -/
theorem foldl_entry_capped {entries : List Entry} (keeps : ∀ told ∈ entries, told.KeepsLogs)
    {display : Display} (uncapped : display.ceiling = none) :
    entries.foldl (entry filter detail) (display.capped detail) =
      ((entries.filter (Entry.isWithin detail)).foldl (entry filter detail) display).capped
        detail := by
  induction entries generalizing display with
  | nil => rfl
  | cons told entries ih =>
    obtain ⟨first, others⟩ := List.forall_mem_cons.mp keeps
    obtain ⟨step, next⟩ := @entry_capped filter detail display uncapped told first
    rw [List.foldl_cons, step, List.filter_cons]
    by_cases within : told.isWithin detail
    · rw [if_pos within, if_pos within, List.foldl_cons]
      exact ih others next
    · rw [if_neg within, if_neg within]
      exact ih others uncapped

/-- A message finer than anything that the filter shows is not shown. -/
theorem entry_of_not_isWithin (coarse : filter.finest ≤ detail) {told : Entry}
    (beyond : ¬told.isWithin detail = true) (display : Display) :
    entry filter detail display told = display := by
  cases told with
  | exchange request answer => exact absurd rfl beyond
  | told notice =>
    cases notice with
    | event event =>
      have finer : ¬event.level.detail ≤ filter.finest := by
        simp only [Entry.isWithin, decide_eq_true_eq] at beyond
        omega
      have unshown : showsEvent filter display event = false := by
        simp only [showsEvent, LogFilter.shows, finer, decide_false, Bool.false_and]
      simp only [entry, Display.notice, unshown]
      rfl
    | diagnostics octets | output text | enter span | leave => exact absurd rfl beyond

/-- A filter that shows nothing finer than the ceiling loses nothing under it. -/
theorem foldl_entry_filter (coarse : filter.finest ≤ detail) (entries : List Entry)
    (display : Display) :
    (entries.filter (Entry.isWithin detail)).foldl (entry filter detail) display =
      entries.foldl (entry filter detail) display := by
  rw [List.foldl_filter]
  congr 1
  funext shown told
  by_cases within : told.isWithin detail
  · rw [if_pos within]
  · rw [if_neg within, entry_of_not_isWithin coarse within]

/-- The octets for the diagnostic stream in notices are shown as they are. -/
theorem foldl_entry_diagnostics (lines : List Bytes) :
    ((lines.map Notice.diagnostics).map Entry.told).foldl (entry filter detail) {} =
      ({} : Display).behind lines := by
  induction lines with
  | nil => rfl
  | cons octets lines ih =>
    have first : entry filter detail {} (.told (.diagnostics octets)) =
        ({} : Display).behind [octets] := rfl
    rw [List.map_cons, List.map_cons, List.foldl_cons, first, foldl_entry_behind, ih]
    rfl

/-- The record of some lines and of more after them is shown as the lines and what is shown of the
rest. -/
theorem render_lines_append (lines : List Bytes) (entries : List Entry) :
    render filter detail ((lines.map Notice.diagnostics).map .told ++ entries) =
      (entries.foldl (entry filter detail) {}).behind lines := by
  rw [render, List.foldl_append, foldl_entry_diagnostics, foldl_entry_behind]

/-- The lines that are shown of a log message once there is a ceiling, outside all spans. -/
def openingNote (filter : LogFilter) (detail : Nat) (event : Event) : List Bytes :=
  if filter.shows [] event.level event.source && decide (event.level.detail ≤ detail) then
    [Utf8.encode (eventLine [] event)]
  else []

/-- If log files cannot be opened, a line about that is shown besides the rest. -/
theorem foldl_entry_refused {answer : LogOpening} (refused : answer ≠ .opened)
    (directory octets : Bytes) (rest : List Entry) :
    (.exchange (.openLogs directory) answer :: .told (.diagnostics octets) :: rest).foldl
        (entry filter detail) {} =
      (rest.foldl (entry filter detail) {}).behind [octets] := by
  have unchanged (display : Display) :
      entry filter detail display (.exchange (.openLogs directory) answer) = display := by
    cases answer with
    | opened => exact absurd rfl refused
    | noDirectory _ | noFile _ => rfl
  have line : entry filter detail {} (.told (.diagnostics octets)) =
      ({} : Display).behind [octets] := rfl
  rw [List.foldl_cons, List.foldl_cons, unchanged, line, foldl_entry_behind]

/-- If log files can be opened, what is shown besides the note is what would be shown of the entries
within the ceiling, and the ceiling stays. -/
theorem foldl_entry_opened (directory : Bytes) (event : Event) {rest : List Entry}
    (keeps : ∀ told ∈ rest, told.KeepsLogs) :
    (.exchange (.openLogs directory) .opened :: .told (.event event) :: rest).foldl
        (entry filter detail) {} =
      (((rest.filter (Entry.isWithin detail)).foldl (entry filter detail) {}).capped
        detail).behind (openingNote filter detail event) := by
  have opens : entry filter detail {} (.exchange (.openLogs directory) .opened) =
      ({} : Display).capped detail := rfl
  have note : entry filter detail (({} : Display).capped detail) (.told (.event event)) =
      (({} : Display).capped detail).behind (openingNote filter detail event) := by
    rw [openingNote]
    change (if filter.shows [] event.level event.source && decide (event.level.detail ≤ detail)
      then _ else _) = _
    by_cases shows : (filter.shows [] event.level event.source &&
        decide (event.level.detail ≤ detail)) = true
    · rw [if_pos shows, if_pos shows]
      rfl
    · rw [if_neg shows, if_neg shows]
      rfl
  rw [List.foldl_cons, List.foldl_cons, opens, note, foldl_entry_behind,
    foldl_entry_capped keeps rfl]

end Display

namespace Program

/-! ## Opening log files -/

/-- Carrying a command out asks what the command may ask. -/
theorem within_carryOut (environment : Environment) (task : Task) :
    (carryOut environment task).Within (fun _ => True) task.Asks := by
  rw [carryOut_eq]
  exact Procedure.Within.bind (task.within_asks environment) fun result =>
    Procedure.within_telling (fun _ _ => trivial) _

/-- What is recorded of carrying a command out is not about opening log files. -/
theorem keepsLogs_carryOut (world : World σ) (environment : Environment) (task : Task)
    (state : σ) :
    ∀ entry ∈ (world.run (carryOut environment task) state).entries, entry.KeepsLogs :=
  world.keepsLogs_of_within ((within_carryOut environment task).mono (fun _ => id)
    fun _ asked => asked.ne_openLogs) state

/-- What is recorded of opening log files on a host that tells nothing by itself in doing so. -/
def openingEntries (environment : Environment) (directory : String) (answer : LogOpening) :
    List Entry :=
  [.exchange (.openLogs (Utf8.encode directory)) answer,
    .told (openingNotice environment directory answer)]

/-- The record of the preparation, on a host that tells nothing by itself while it opens log
files. -/
theorem run_prepareLogs_of_silent {world : World σ} {state : σ} {directory : String}
    (silent : (world.handle (.openLogs (Utf8.encode directory)) state).notices = [])
    (environment : Environment) (verbosity : Nat) :
    world.run (prepareLogs environment ⟨verbosity, some directory⟩) state =
      let opened := world.handle (.openLogs (Utf8.encode directory)) state
      ⟨opened.answer.goesOn,
        (warningNotices environment).map .told ++
          openingEntries environment directory opened.answer, opened.state⟩ := by
  rw [run_prepareLogs_of_some]
  dsimp only
  rw [silent]
  rfl

/-- Some lines and others are the same, except that the others have a note among them. -/
def AddsNote (note plain logged : List Bytes) : Prop :=
  ∃ before after, plain = before ++ after ∧ logged = before ++ note ++ after

/-- What appears of the entries of a record under an environment and a verbosity. -/
def shown (environment : Environment) (verbosity : Nat) (entries : List Entry) : Display :=
  Display.render (LogFilter.ofSetting environment.logSetting verbosity)
    (LogFilter.defaultDetail verbosity) entries

/-- What log files add to an invocation, if opening them goes in a certain way: the second run is
the first one with that. -/
structure AddsLogs (environment : Environment) (verbosity : Nat) (directory : String)
    (answer : LogOpening) (plain logged : Run σ Int32) : Prop where
  /-- The exit code is the same. -/
  value : logged.value = plain.value
  /-- The same is called, with the same answers. -/
  calls : logged.calls = plain.calls
  /-- The same is added to the same files, with the same success. -/
  appended : logged.appended = plain.appended
  /-- The same is printed. -/
  output : (shown environment verbosity logged.entries).outputText =
    (shown environment verbosity plain.entries).outputText
  /-- If the directory cannot be made, the diagnostics have one line more, which warns of that. -/
  warned : ∀ cause, answer = .noDirectory cause →
    AddsNote [directoryWarning environment directory cause]
      (shown environment verbosity plain.entries).diagnostics
      (shown environment verbosity logged.entries).diagnostics
  /-- If log files are open, the diagnostics are those of the entries within the detail that was
  asked for on the command line, with the note on the directory if that is shown. -/
  capped : answer = .opened →
    let filter := LogFilter.ofSetting environment.logSetting verbosity
    let detail := LogFilter.defaultDetail verbosity
    AddsNote (Display.openingNote filter detail (.loggingTo (Utf8.encode directory)))
      (shown environment verbosity (plain.entries.filter (Entry.isWithin detail))).diagnostics
      (shown environment verbosity logged.entries).diagnostics
  /-- No entry is lost in this way if the filter shows nothing finer. -/
  whole : answer = .opened →
    let filter := LogFilter.ofSetting environment.logSetting verbosity
    let detail := LogFilter.defaultDetail verbosity
    filter.finest ≤ detail →
      AddsNote (Display.openingNote filter detail (.loggingTo (Utf8.encode directory)))
        (shown environment verbosity plain.entries).diagnostics
        (shown environment verbosity logged.entries).diagnostics

/-- A run that broke off at a log file that was refused: besides the warnings about the setting only
the report on the file is shown. -/
structure BrokeOff (environment : Environment) (verbosity : Nat) (report : Bytes)
    (run : Run σ Int32) : Prop where
  /-- The exit code is that of breaking off. -/
  value : run.value = brokenOffExitCode
  /-- Nothing is called. -/
  calls : run.calls = []
  /-- Nothing is added to files. -/
  appended : run.appended = []
  /-- Nothing is printed. -/
  output : (shown environment verbosity run.entries).outputText = ""
  /-- The diagnostics are the warnings and the report. -/
  diagnostics : (shown environment verbosity run.entries).diagnostics =
    warningLines environment ++ [report]

section Shown

variable (environment : Environment) (verbosity : Nat)

/-- What appears of a record that begins with the warnings about the setting. -/
theorem diagnostics_shown_warnings (entries : List Entry) :
    (shown environment verbosity
        ((warningNotices environment).map .told ++ entries)).diagnostics =
      warningLines environment ++
        (entries.foldl (Display.entry (LogFilter.ofSetting environment.logSetting verbosity)
          (LogFilter.defaultDetail verbosity)) {}).diagnostics := by
  rw [shown, warningNotices, Display.render_lines_append]
  rfl

/-- What appears of a record in which opening log files fails and a line tells of that. -/
theorem diagnostics_shown_refused {directory : String} {answer : LogOpening} {octets : Bytes}
    (refused : answer ≠ .opened)
    (told : openingNotice environment directory answer = .diagnostics octets)
    (rest : List Entry) :
    (shown environment verbosity ((warningNotices environment).map .told ++
        (openingEntries environment directory answer ++ rest))).diagnostics =
      warningLines environment ++ [octets] ++
        (rest.foldl (Display.entry (LogFilter.ofSetting environment.logSetting verbosity)
          (LogFilter.defaultDetail verbosity)) {}).diagnostics := by
  rw [diagnostics_shown_warnings, openingEntries, told, List.append_assoc]
  exact congrArg (warningLines environment ++ ·.diagnostics)
    (Display.foldl_entry_refused refused _ octets rest)

/-- What appears of a record in which log files are opened. -/
theorem diagnostics_shown_opened (directory : String) {rest : List Entry}
    (keeps : ∀ entry ∈ rest, entry.KeepsLogs) :
    let filter := LogFilter.ofSetting environment.logSetting verbosity
    let detail := LogFilter.defaultDetail verbosity
    (shown environment verbosity ((warningNotices environment).map .told ++
        (openingEntries environment directory .opened ++ rest))).diagnostics =
      warningLines environment ++
        Display.openingNote filter detail (.loggingTo (Utf8.encode directory)) ++
        ((rest.filter (Entry.isWithin detail)).foldl (Display.entry filter detail)
          {}).diagnostics := by
  intro filter detail
  rw [diagnostics_shown_warnings, List.append_assoc]
  exact congrArg (warningLines environment ++ ·.diagnostics)
    (Display.foldl_entry_opened (Utf8.encode directory) (.loggingTo (Utf8.encode directory)) keeps)

/-- Log files are added to a record by the entries about opening them, after the warnings about the
setting. -/
theorem addsLogs_openingEntries (directory : String) (answer : LogOpening) (code : Int32)
    {rest : List Entry} (keeps : ∀ entry ∈ rest, entry.KeepsLogs) (after after' : σ) :
    let warnings := (warningNotices environment).map Entry.told
    AddsLogs environment verbosity directory answer ⟨code, warnings ++ rest, after⟩
      ⟨code, warnings ++ (openingEntries environment directory answer ++ rest), after'⟩ := by
  intro warnings
  -- What is picked out of both records is the same if it is none of the entries about opening.
  have picked {β : Type} (pick : Entry → Option β)
      (nothing : (openingEntries environment directory answer).filterMap pick = []) :
      (warnings ++ (openingEntries environment directory answer ++ rest)).filterMap pick =
        (warnings ++ rest).filterMap pick := by
    rw [List.filterMap_append, List.filterMap_append, List.filterMap_append, nothing,
      List.nil_append]
  have shownPlain := diagnostics_shown_warnings environment verbosity
  constructor
  case value => rfl
  case calls => exact picked Entry.call? rfl
  case appended => exact picked Entry.appended? rfl
  case output =>
    have outputs := picked (fun told => told.notice?.bind Notice.output?) (by cases answer <;> rfl)
    refine (Display.outputText_render _ _ (Run.mk code _ after')).trans ?_
    refine Eq.trans ?_ (Display.outputText_render _ _ (Run.mk code _ after)).symm
    exact congrArg String.join outputs
  case warned =>
    rintro cause rfl
    have refused : LogOpening.noDirectory cause ≠ .opened := nofun
    have told : openingNotice environment directory (.noDirectory cause) =
        .diagnostics (directoryWarning environment directory cause) := rfl
    exact ⟨warningLines environment, _, shownPlain rest,
      diagnostics_shown_refused environment verbosity refused told rest⟩
  case capped =>
    rintro rfl
    have lines : warnings.filter (Entry.isWithin (LogFilter.defaultDetail verbosity)) = warnings :=
      Entry.filter_isWithin_lines _ (warningLines environment)
    refine ⟨warningLines environment, _, ?_,
      diagnostics_shown_opened environment verbosity directory keeps⟩
    dsimp only
    rw [List.filter_append, lines]
    exact shownPlain _
  case whole =>
    rintro rfl filter detail coarse
    refine ⟨warningLines environment, _, ?_,
      diagnostics_shown_opened environment verbosity directory keeps⟩
    rw [Display.foldl_entry_filter coarse]
    exact shownPlain rest

/-- A record that ends with a report on a log file is that of a run that broke off. -/
theorem brokeOff_openingEntries (directory : String) (report : Bytes) (after : σ) :
    BrokeOff environment verbosity report ⟨brokenOffExitCode,
      (warningNotices environment).map .told ++
        openingEntries environment directory (.noFile report), after⟩ := by
  have nothing {β : Type} (pick : Entry → Option β)
      (lines : ∀ octets, pick (.told (.diagnostics octets)) = none)
      (request : ∀ directory, pick (.exchange (.openLogs directory) (.noFile report)) = none) :
      ((warningNotices environment).map Entry.told ++
        openingEntries environment directory (.noFile report)).filterMap pick = [] := by
    rw [List.filterMap_eq_nil_iff]
    intro entry mem
    rcases List.mem_append.mp mem with warning | opening
    · obtain ⟨notice, told, rfl⟩ := List.mem_map.mp warning
      obtain ⟨octets, -, rfl⟩ := List.mem_map.mp told
      exact lines octets
    · rcases List.mem_pair.mp opening with rfl | rfl
      · exact request _
      · exact lines report
  have refused : LogOpening.noFile report ≠ .opened := nofun
  have told : openingNotice environment directory (.noFile report) = .diagnostics report := rfl
  constructor
  case value => rfl
  case calls => exact nothing Entry.call? (fun _ => rfl) fun _ => rfl
  case appended => exact nothing Entry.appended? (fun _ => rfl) fun _ => rfl
  case output =>
    refine (Display.outputText_render _ _ (Run.mk brokenOffExitCode _ after)).trans ?_
    exact congrArg String.join (nothing (fun told => told.notice?.bind Notice.output?)
      (fun _ => rfl) fun _ => rfl)
  case diagnostics =>
    have lines := diagnostics_shown_refused environment verbosity refused told []
    rwa [List.append_nil, List.foldl_nil, List.append_nil] at lines

end Shown

/-- **Log files are added.** Take any command under any environment, and any host that tells nothing
by itself while it opens log files. If the program goes on, the invocation does what one without a
directory for log files does on the host as opening the files leaves it, with what log files add. It
does so as well compared with one on the host as it was, if opening the files changes nothing else
that the command meets, and then the host is left the same for such a command. If the directory is
there but a log file in it is refused, the program breaks off: the command is not carried out, and
besides the warnings about the setting only the report on the file is shown. -/
theorem logDirectory_adds (world : World σ) (environment : Environment) (verbosity : Nat)
    (directory : String) (task : Task) (state : σ)
    (silent : (world.handle (.openLogs (Utf8.encode directory)) state).notices = []) :
    let opened := world.handle (.openLogs (Utf8.encode directory)) state
    let plain := world.run (perform environment ⟨⟨verbosity, none⟩, task⟩) state
    let plainAfter := world.run (perform environment ⟨⟨verbosity, none⟩, task⟩) opened.state
    let logged := world.run (perform environment ⟨⟨verbosity, some directory⟩, task⟩) state
    ((∀ report, opened.answer ≠ .noFile report) →
      AddsLogs environment verbosity directory opened.answer plainAfter logged ∧
      logged.state = plainAfter.state ∧
      (world.SameFor task.Asks opened.state state →
        AddsLogs environment verbosity directory opened.answer plain logged ∧
        world.SameFor task.Asks logged.state plain.state)) ∧
    ∀ report, opened.answer = .noFile report →
      BrokeOff environment verbosity report logged ∧ logged.state = opened.state := by
  intro opened plain plainAfter logged
  have ready := run_prepareLogs_of_silent silent environment verbosity
  constructor
  · intro present
    have goesOn : opened.answer.goesOn = true :=
      LogOpening.goesOn_eq_true_iff.mpr fun ⟨report, refused⟩ => present report refused
    let carried := world.run (carryOut environment task) opened.state
    have hlogged : logged = ⟨carried.value, (warningNotices environment).map .told ++
        (openingEntries environment directory opened.answer ++ carried.entries),
        carried.state⟩ := by
      dsimp only [logged]
      rw [run_perform, ready]
      dsimp only
      rw [if_pos goesOn, List.append_assoc]
    have hplainAfter : plainAfter = ⟨carried.value,
        (warningNotices environment).map .told ++ carried.entries, carried.state⟩ :=
      run_perform_of_none world environment verbosity task opened.state
    have keeps := keepsLogs_carryOut world environment task opened.state
    rw [hlogged, hplainAfter]
    refine ⟨addsLogs_openingEntries environment verbosity directory _ _ keeps _ _, rfl,
      fun same => ?_⟩
    -- The command has the same run on the host as it was.
    obtain ⟨value, entries, after⟩ :=
      World.run_of_sameFor (within_carryOut environment task) same
    have hplain : plain = ⟨carried.value, (warningNotices environment).map .told ++ carried.entries,
        (world.run (carryOut environment task) state).state⟩ := by
      dsimp only [plain, carried]
      rw [run_perform_of_none, value, entries]
    rw [hplain]
    exact ⟨addsLogs_openingEntries environment verbosity directory _ _ keeps _ _, after⟩
  · intro report refused
    have brokenOff : ¬opened.answer.goesOn = true := by
      rw [refused]
      exact Bool.false_ne_true
    have hlogged : logged = ⟨brokenOffExitCode, (warningNotices environment).map .told ++
        openingEntries environment directory (.noFile report), opened.state⟩ := by
      dsimp only [logged]
      rw [run_perform, ready]
      dsimp only
      rw [if_neg brokenOff, ← refused]
    rw [hlogged]
    exact ⟨brokeOff_openingEntries environment verbosity directory report opened.state, rfl⟩

/-- A host on which a file can be added to only if log files are open. -/
def appendsBesideLogs : World Bool where
  handle
    | .openLogs _, _ => ⟨.opened, [], true⟩
    | .append .., isOpen => ⟨if isOpen then .ok () else .error .noSuchEntry, [], isOpen⟩
    | request, isOpen => ⟨request.someAnswer, [], isOpen⟩

-- The command can meet what opening log files changes: here its path file stands beside them.
example :
    let task : Task :=
      .run { compiler := some "clang-default", dryRun := true, pathFile := some "/logs/paths" }
    let plain := appendsBesideLogs.run (perform (fun _ => none) ⟨⟨0, none⟩, task⟩) false
    let logged := appendsBesideLogs.run (perform (fun _ => none) ⟨⟨0, some "/logs"⟩, task⟩) false
    plain.value = 1 ∧ logged.value = 0 := by
  decide +kernel

/-- A host that grants whatever it is asked for, and tells nothing. -/
def obliging : World Unit where
  handle request _ := ⟨request.someAnswer, [], ()⟩

/-- An environment that asks for detailed log messages. -/
def debugEnvironment : Environment
  | "BREWUP_LOG" => some (Utf8.encode "debug")
  | _ => none

/-- The diagnostics of the program on that host and in that environment, for given arguments. -/
def debugDiagnostics (args : List String) : List Bytes :=
  let asked := verbosity debugEnvironment args
  let entries := (obliging.run (main debugEnvironment args) ()).entries
  (Display.render (LogFilter.ofSetting debugEnvironment.logSetting asked)
    (LogFilter.defaultDetail asked) entries).diagnostics

/-- If the command line asks for as much detail as the environment, only the note is added. -/
theorem logDirectory_adds_debug :
    (obliging.handle (.openLogs (Utf8.encode "/logs")) ()).notices = [] ∧
      (∀ report, (obliging.handle (.openLogs (Utf8.encode "/logs")) ()).answer ≠ .noFile report) ∧
      obliging.SameFor Task.compilers.Asks () () ∧
      (LogFilter.ofSetting debugEnvironment.logSetting 1).finest ≤ LogFilter.defaultDetail 1 ∧
      AddsNote [Utf8.encode (Display.eventLine [] (.loggingTo (Utf8.encode "/logs")))]
        (debugDiagnostics ["-v", "compilers"])
        (debugDiagnostics ["-v", "--log-dir", "/logs", "compilers"]) := by
  have silent : (obliging.handle (.openLogs (Utf8.encode "/logs")) ()).notices = [] := rfl
  have coarse : (LogFilter.ofSetting debugEnvironment.logSetting 1).finest ≤
      LogFilter.defaultDetail 1 := by decide +kernel
  have plain : interpret none ["-v", "compilers"] = .ok ⟨⟨1, none⟩, .compilers⟩ := by
    decide +kernel
  have logged : interpret none ["-v", "--log-dir", "/logs", "compilers"] =
      .ok ⟨⟨1, some "/logs"⟩, .compilers⟩ := by
    decide +kernel
  have note : Display.openingNote (LogFilter.ofSetting debugEnvironment.logSetting 1)
      (LogFilter.defaultDetail 1) (.loggingTo (Utf8.encode "/logs")) =
        [Utf8.encode (Display.eventLine [] (.loggingTo (Utf8.encode "/logs")))] := by
    decide +kernel
  have unnoticed : obliging.SameFor Task.compilers.Asks () () := fun _ _ _ _ => ⟨rfl, rfl⟩
  have present : ∀ report,
      (obliging.handle (.openLogs (Utf8.encode "/logs")) ()).answer ≠ .noFile report := nofun
  obtain ⟨added, -⟩ :=
    logDirectory_adds obliging debugEnvironment 1 "/logs" .compilers () silent
  obtain ⟨-, -, compared⟩ := added present
  have adds := (compared unnoticed).1.whole rfl coarse
  rw [note] at adds
  refine ⟨silent, present, unnoticed, coarse, ?_⟩
  have unset : debugEnvironment.compiler = none := rfl
  rw [debugDiagnostics, debugDiagnostics, main, main, verbosity, verbosity, unset, plain, logged]
  exact adds

/-- **Messages that the filter shows can be lost.** Without a directory for log files the
environment has it that the end of the command is told. With one nothing is told at all, so whatever
the note is taken to be, it is not all that is added. -/
theorem not_addsNote_debug :
    ¬∃ note, AddsNote note (debugDiagnostics ["compilers"])
      (debugDiagnostics ["--log-dir", "/logs", "compilers"]) := by
  have plain : debugDiagnostics ["compilers"] =
      [Utf8.encode (Display.eventLine [] .commandDone)] := by decide +kernel
  have logged : debugDiagnostics ["--log-dir", "/logs", "compilers"] = [] := by decide +kernel
  rintro ⟨note, before, after, hplain, hlogged⟩
  rw [plain] at hplain
  rw [logged] at hlogged
  have lengths := congrArg List.length hplain
  have nothing := congrArg List.length hlogged
  simp only [List.length_append, List.length_cons, List.length_nil] at lengths nothing
  omega

end Program

end Cli

end HostProvision
