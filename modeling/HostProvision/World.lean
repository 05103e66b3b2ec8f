import HostProvision.Procedure

/-! # Worlds in which procedures run

A `World` answers the requests of procedures. It has a state, which any request may change, and it
may tell notices of its own. `World.run` carries a procedure out and records what was told and what
was asked and answered, in order. -/

namespace HostProvision

variable {σ α β : Type}

/-- The answer to a request, with what was told on the way and the state after it. -/
structure Answered (σ α : Type) where
  /-- The answer. -/
  answer : α
  /-- What was told on the way, in order. -/
  notices : List Notice
  /-- The state after the request. -/
  state : σ

/-- A host, as procedures see it: how it answers each request in each state. -/
structure World (σ : Type) where
  /-- The answer to a request. -/
  handle : (request : Request) → σ → Answered σ request.Answer

/-- One entry in the record of a run. -/
inductive Entry where
  /-- Something was told. -/
  | told (notice : Notice)
  /-- Something was asked and answered. -/
  | exchange (request : Request) (answer : request.Answer)

/-- A run of a procedure. -/
structure Run (σ α : Type) where
  /-- The result of the procedure. -/
  value : α
  /-- What was told, asked and answered, in order. -/
  entries : List Entry
  /-- The state of the world after the run. -/
  state : σ

namespace World

/-- Carries a procedure out. -/
def run (world : World σ) : Procedure α → σ → Run σ α
  | .done value, state => ⟨value, [], state⟩
  | .notify notice next, state =>
    let rest := world.run next state
    ⟨rest.value, .told notice :: rest.entries, rest.state⟩
  | .ask request next, state =>
    let answered := world.handle request state
    let rest := world.run (next answered.answer) answered.state
    ⟨rest.value,
      answered.notices.map .told ++ .exchange request answered.answer :: rest.entries,
      rest.state⟩

@[simp] theorem run_done (world : World σ) (value : α) (state : σ) :
    world.run (.done value) state = ⟨value, [], state⟩ :=
  rfl

/-- A sequence runs its second part in the state that the first part leaves, and its record is that
of the first part followed by that of the second. -/
theorem run_bind (world : World σ) (first : Procedure α) (second : α → Procedure β) (state : σ) :
    world.run (first >>= second) state =
      let before := world.run first state
      let after := world.run (second before.value) before.state
      ⟨after.value, before.entries ++ after.entries, after.state⟩ := by
  induction first generalizing state with
  | done value => rfl
  | notify notice next ih =>
    simp only [Procedure.notify_bind, run, ih]
    rfl
  | ask request next ih =>
    simp only [Procedure.ask_bind, run, ih]
    simp

end World

/-- A request to run a command or to look up a program, with its answer. -/
inductive Call where
  /-- A command was run. -/
  | command (mode : Mode) (line : CommandLine) (reply : Except IoError Reply)
  /-- A program was looked up. -/
  | lookup (program : String) (found : Bool)

namespace Entry

/-- The call that an entry records, if any. -/
def call? : Entry → Option Call
  | .exchange (.command mode line) reply => some (.command mode line reply)
  | .exchange (.lookup program) found => some (.lookup program found)
  | _ => none

/-- The notice that an entry records, if any. -/
def notice? : Entry → Option Notice
  | .told notice => some notice
  | .exchange .. => none

end Entry

namespace Run

/-- The commands and lookups of a run, in order. -/
def calls (run : Run σ α) : List Call :=
  run.entries.filterMap Entry.call?

/-- The log messages of a run, in order. -/
def events (run : Run σ α) : List Event :=
  run.entries.filterMap fun entry =>
    match entry with
    | .told (.event event) => some event
    | _ => none

end Run

end HostProvision
