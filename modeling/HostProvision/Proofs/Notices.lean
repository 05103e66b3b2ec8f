import HostProvision.Cli.Display

/-! # What is told in a run

A run records what was told in it, by the procedure and by the host. `Run.shown` picks notices out
of the record: `Run.outputs` those for the output stream, and `Run.diagnostics` those for the
diagnostic stream that are no log messages.

* **Every filter shows the same output**, `Cli.Display.outputText_render`: the output stream of the
  program is made up of what was told for it, whatever log messages are shown.
* **Every filter only adds lines of the log**, `Cli.Display.addsLogLines_render`: what was told for
  the diagnostic stream appears there in order, with lines of the log in between. -/

namespace HostProvision

variable {σ α β : Type}

/-- The text for the output stream in a notice, if it is for that. -/
def Notice.output? : Notice → Option String
  | output text => some text
  | _ => none

/-- The octets for the diagnostic stream in a notice, if it is for that and no log message. -/
def Notice.diagnostics? : Notice → Option Bytes
  | diagnostics octets => some octets
  | _ => none

namespace Run

/-- What is picked out of the notices of a run, in order. -/
def shown (pick : Notice → Option β) (run : Run σ α) : List β :=
  run.entries.filterMap fun entry => entry.notice?.bind pick

/-- The texts for the output stream. -/
abbrev outputs (run : Run σ α) : List String :=
  run.shown Notice.output?

/-- The octets for the diagnostic stream, without log messages. -/
abbrev diagnostics (run : Run σ α) : List Bytes :=
  run.shown Notice.diagnostics?

end Run

namespace World

variable (world : World σ) (pick : Notice → Option β)

@[simp] theorem shown_run_done (value : α) (state : σ) :
    (world.run (.done value) state).shown pick = [] :=
  rfl

/-- What is told first is picked first. -/
@[simp] theorem shown_run_notify (notice : Notice) (next : Procedure α) (state : σ) :
    (world.run (.notify notice next) state).shown pick =
      (pick notice).toList ++ (world.run next state).shown pick := by
  rw [Run.shown, run, List.filterMap_cons]
  cases picked : pick notice <;> simp [Entry.notice?, picked, Run.shown]

/-- What the host tells on the way to an answer is picked before what is told after it. -/
@[simp] theorem shown_run_ask (request : Request) (next : request.Answer → Procedure α)
    (state : σ) :
    (world.run (.ask request next) state).shown pick =
      (world.handle request state).notices.filterMap pick ++
        (world.run (next (world.handle request state).answer)
          (world.handle request state).state).shown pick := by
  simp only [Run.shown, run, List.filterMap_append, List.filterMap_map, List.filterMap_cons,
    Entry.notice?, Option.bind_none]
  congr 1

/-- What is picked out of a sequence is picked out of its first part and then of its second part. -/
theorem shown_run_bind (first : Procedure α) {γ : Type} (second : α → Procedure γ) (state : σ) :
    (world.run (first >>= second) state).shown pick =
      (world.run first state).shown pick ++
        (world.run (second (world.run first state).value) (world.run first state).state).shown
          pick := by
  simp only [Run.shown, run_bind, List.filterMap_append]

end World

namespace Cli.Display

/-- An entry adds its text to the output stream, if it is for that. -/
theorem output_entry (filter : LogFilter) (detail : Nat) (display : Display) (told : Entry) :
    (entry filter detail display told).output =
      display.output ++ (told.notice?.bind Notice.output?).toList := by
  cases told with
  | told notice =>
    cases notice with
    | event event =>
      simp only [entry, notice, Entry.notice?, Option.bind_some, Notice.output?,
        Option.toList_none, List.append_nil]
      split <;> rfl
    | output text => rfl
    | _ => exact (List.append_nil _).symm
  | exchange request answer =>
    simp only [Entry.notice?, Option.bind_none, Option.toList_none, List.append_nil]
    cases request with
    | openLogs directory => cases answer <;> rfl
    | _ => rfl

/-- **Every filter shows the same output**: what was told for it. -/
theorem outputText_render (filter : LogFilter) (detail : Nat) (run : Run σ α) :
    (render filter detail run.entries).outputText = String.join run.outputs := by
  have outputs : ∀ (entries : List Entry) (display : Display),
      (entries.foldl (entry filter detail) display).output =
        display.output ++ entries.filterMap fun told => told.notice?.bind Notice.output? := by
    intro entries
    induction entries with
    | nil => exact fun display => (List.append_nil _).symm
    | cons told entries ih =>
      intro display
      rw [List.foldl_cons, ih, output_entry, List.append_assoc]
      congr 1
      rw [List.filterMap_cons]
      cases told.notice?.bind Notice.output? <;> rfl
  rw [outputText, render, outputs]
  rfl

/-- Some octets after another are others with lines of the log in between. -/
inductive AddsLogLines : (octets shown : List Bytes) → Prop where
  /-- Nothing is shown. -/
  | nil : AddsLogLines [] []
  /-- A line of the log comes first. -/
  | line (spans : List OpenSpan) (event : Event) {octets shown : List Bytes}
      (rest : AddsLogLines octets shown) :
      AddsLogLines octets (Utf8.encode (eventLine spans event) :: shown)
  /-- The same comes first. -/
  | same (first : Bytes) {octets shown : List Bytes} (rest : AddsLogLines octets shown) :
      AddsLogLines (first :: octets) (first :: shown)

/-- Lines are in between in two parts if they are in each. -/
theorem AddsLogLines.append {octets shown more later : List Bytes} (h : AddsLogLines octets shown)
    (h' : AddsLogLines more later) : AddsLogLines (octets ++ more) (shown ++ later) := by
  induction h with
  | nil => exact h'
  | line spans event _ ih => exact .line spans event ih
  | same first _ ih => exact .same first ih

/-- An entry adds its octets to the diagnostic stream if it is for that, and otherwise a line of the
log at most. -/
theorem exists_diagnostics_entry (filter : LogFilter) (detail : Nat) (display : Display)
    (told : Entry) :
    ∃ added, (entry filter detail display told).diagnostics = display.diagnostics ++ added ∧
      AddsLogLines (told.notice?.bind Notice.diagnostics?).toList added := by
  have nothing : display.diagnostics = display.diagnostics ++ [] := (List.append_nil _).symm
  cases told with
  | told notice =>
    cases notice with
    | event event =>
      simp only [entry, Display.notice]
      by_cases shows : showsEvent filter display event
      · rw [if_pos shows]
        exact ⟨_, rfl, .line display.spans event .nil⟩
      · rw [if_neg shows]
        exact ⟨[], nothing, .nil⟩
    | diagnostics octets => exact ⟨[octets], rfl, .same octets .nil⟩
    | output _ | enter _ | leave => exact ⟨[], nothing, .nil⟩
  | exchange request answer =>
    refine ⟨[], ?_, .nil⟩
    cases request with
    | openLogs directory => cases answer <;> exact nothing
    | clock | command _ _ | lookup _ | append _ _ => exact nothing

/-- **Every filter only adds lines of the log** to what was told for the diagnostic stream. -/
theorem addsLogLines_render (filter : LogFilter) (detail : Nat) (run : Run σ α) :
    AddsLogLines run.diagnostics (render filter detail run.entries).diagnostics := by
  have added : ∀ (entries : List Entry) (display : Display),
      ∃ more, (entries.foldl (entry filter detail) display).diagnostics =
          display.diagnostics ++ more ∧
        AddsLogLines (entries.filterMap fun told => told.notice?.bind Notice.diagnostics?)
          more := by
    intro entries
    induction entries with
    | nil => exact fun display => ⟨[], (List.append_nil _).symm, .nil⟩
    | cons told entries ih =>
      intro display
      obtain ⟨first, hfirst, adds⟩ := exists_diagnostics_entry filter detail display told
      obtain ⟨rest, hrest, later⟩ := ih (entry filter detail display told)
      refine ⟨first ++ rest, ?_, ?_⟩
      · rw [List.foldl_cons, hrest, hfirst, List.append_assoc]
      · have both := adds.append later
        rw [List.filterMap_cons]
        cases picked : told.notice?.bind Notice.diagnostics? <;> rw [picked] at both <;> exact both
  obtain ⟨shown, eq, adds⟩ := added run.entries {}
  rw [render, eq]
  exact adds

end Cli.Display

end HostProvision
