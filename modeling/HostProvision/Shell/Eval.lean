import HostProvision.Shell.Simple

/-! # Running scripts

`perform` carries out a command, given how the commands inside it are carried out. `eval` closes the
recursion up to a depth, and besides it counts the steps of all processes together; a script for
which either does not suffice is stuck. `run` starts a tool of the host and tells how it ended, what
it printed and what became of the files. -/

namespace HostProvision

namespace Shell

open Host (FileTree Launch Location)

/-! ### Loops -/

/-- What the end of a part of a loop means for the loop: whether it goes on. -/
def goesOn : Option Break → Action Bool
  | none => return true
  | some (.again levels) => if levels ≤ 1 then return true else throw (.again (levels - 1))
  | some (.leave levels) => if levels ≤ 1 then return false else throw (.leave (levels - 1))
  | some reason => throw reason

/-- A part that ends by itself lets its loop go on. -/
@[simp] theorem goesOn_none : goesOn none = pure true :=
  rfl

/-- Makes a loop known while it runs. -/
def inLoop (body : Action Unit) : Action Unit :=
  Action.mending (fun before after => { after with loops := before.loops }) do
    modify fun state => { state with loops := state.loops + 1 }
    body

/-- Tests once and carries the body of a loop out if the test says so. The result is whether the loop
goes on, with the status of the last body. -/
def performRound (run : Runner) (manner : Manner) (whileSucceeds : Bool) (test body : Command)
    (status : Nat) : Action (Bool × Nat) := do
  let ended ← Action.attempt (run { isTested := true } test)
  match ended with
  | some (.leave _) | some (.again _) => Action.setStatus status
  | _ => pure ()
  unless ← goesOn ended do return (false, status)
  match ended with
  | some _ => return (true, status)
  | none =>
    let state ← get
    if (state.status = 0) ≠ whileSucceeds then
      Action.setStatus status
      return (false, status)
    let ended ← Action.attempt (run { isTested := manner.isTested } body)
    let goes ← goesOn ended
    let state ← get
    return (goes, state.status)

/-- Carries a loop by a test out, given the status of the last body. -/
def performLoop (run : Runner) (manner : Manner) (whileSucceeds : Bool) (test body : Command) :
    Nat → Nat → Action Unit
  | 0, _ => throw .stuck
  | fuel + 1, status => do
    let (goes, status) ← performRound run manner whileSucceeds test body status
    if goes then performLoop run manner whileSucceeds test body fuel status

/-- Carries the body of a loop out for each of some values. -/
def performEach (run : Runner) (manner : Manner) (name : String) (body : Command) :
    List Bytes → Action Unit
  | [] => return
  | value :: values => do
    Action.assign name value
    let ended ← Action.attempt (run { isTested := manner.isTested } body)
    if ← goesOn ended then performEach run manner name body values

/-! ### Choices -/

/-- Whether one of some patterns matches a text. -/
def matchesAny (output : Command → Action Bytes) (text : Bytes) : List Word → Action Bool
  | [] => return false
  | word :: rest => do
    let pattern ← expandPattern output word
    if pattern.isMatch text then return true else matchesAny output text rest

/-- The command of the first clause with a pattern that matches a text. -/
def chosen (output : Command → Action Bytes) (text : Bytes) :
    List (List Word × Command) → Action (Option Command)
  | [] => return none
  | (patterns, body) :: rest => do
    if ← matchesAny output text patterns then return some body else chosen output text rest

/-! ### Commands -/

/-- Carries out a command with redirections. The result is whether they went well. -/
def performRedirected (run : Runner) (manner : Manner) (line : Nat) (body : Command)
    (redirections : List Redirection) : Action Bool := do
  let output := substitute run
  modify fun state => { state with line }
  keepingDescriptors redirections do
    let connections ← expandTargets output redirections
    let isConnected ← connected output connections
    if isConnected then run { isTested := manner.isTested } body else Action.setStatus 2
    return isConnected

/-- Carries out a command in a process of its own. -/
def performSubshell (run : Runner) (manner : Manner) (line : Nat) (body : Command)
    (redirections : List Redirection) : Action Unit := do
  let output := substitute run
  modify fun state => { state with line }
  let connections ← expandTargets output redirections
  waitFor run do
    connectAll output false connections
    run { manner with isLast := true } body

/-- Carries out what a command says. The result is whether a failure counts as one of the command
itself, rather than of a command inside it. -/
def performInner (run : Runner) (manner : Manner) : Command → Action Bool
  | .skip => return false
  | .simple line assignments words redirections => do
    performSimple run manner line assignments words redirections
    return true
  | .sequence first second => do
    run { isTested := manner.isTested } first
    run manner second
    return false
  | .andThen first second => do
    run { isTested := true } first
    let state ← get
    if state.status = 0 then run manner second
    return false
  | .orElse first second => do
    run { isTested := true } first
    let state ← get
    if state.status ≠ 0 then run manner second
    return false
  | .negation body => do
    run { isTested := true } body
    modify fun state => { state with status := Builtin.answerStatus (state.status ≠ 0) }
    return false
  | .pipeline commands => do
    Action.reuseJob
    runPipeline run manner none commands
    return true
  | .background body => do
    startJob body
    return true
  | .redirected line body redirections => do
    let isConnected ← performRedirected run manner line body redirections
    return !isConnected
  | .subshell line body redirections => do
    performSubshell run manner line body redirections
    return true
  | .conditional test thenBody elseBody => do
    run { isTested := true } test
    let state ← get
    match if state.status = 0 then some thenBody else elseBody with
    | some body => run manner body
    | none => Action.setStatus 0
    return false
  | .loop whileSucceeds test body => do
    inLoop (performLoop run manner whileSucceeds test body Action.maxRepetitions 0)
    return false
  | .forEach line name words body => do
    modify fun state => { state with line }
    let values ← expandWords (substitute run) words
    if values.isEmpty then Action.setStatus 0
    inLoop (performEach run manner name body values)
    return false
  | .choose line subject clauses => do
    modify fun state => { state with line }
    let text ← expandText (substitute run) subject
    match ← chosen (substitute run) text clauses with
    | none | some .skip => Action.setStatus 0
    | some body => run manner body
    return false
  | .define name body => do
    modify fun state => { state with
      functions := (name, body) :: state.functions.filter fun entry => entry.1 ≠ name
      status := 0 }
    return false

/-- Uses up a step. -/
def takeStep : Action Unit := do
  let state ← get
  match state.shared.steps with
  | 0 => throw .stuck
  | steps + 1 => set { state with shared := { state.shared with steps } }

/-- Carries out a command, before and after which signals are dealt with. -/
def perform (run : Runner) : Runner := fun manner command => do
  let state ← get
  if !state.has .noCommands then
    takeStep
    deliver run
    let isOwn ← performInner run manner command
    deliver run
    if isOwn then checkFailure manner

/-- Carries out commands that are nested up to a depth. -/
def eval : Nat → Runner
  | 0 => fun _ _ => throw .stuck
  | depth + 1 => perform (eval depth)

/-! ### Running tools -/

/-- How deep commands may be nested. -/
def maxDepth : Nat := 1000000

/-- How many steps a tool may take. -/
def maxSteps : Nat := 2000000

/-- The number of the first process. -/
def firstProcess : Nat := 1234

/-- What a tool leaves. -/
structure Finished where
  /-- How it ended. -/
  ended : Ended
  /-- What was printed, in order. -/
  printed : List (Sink × Bytes)
  /-- The files. -/
  tree : FileTree

/-- What was printed on a sink. -/
def Finished.octets (finished : Finished) (sink : Sink) : Bytes :=
  finished.printed.flatMap fun (other, octets) => if other = sink then octets else []

/-- The state in which a tool is started. Its input is empty. -/
def State.initial (tree : FileTree) (directory : Location) (environment : List (String × Bytes)) :
    State :=
  { number := firstProcess
    parent := firstProcess - 1
    script := firstProcess
    directory
    path := Path.below [Path.slash] (directory.map .name)
    bindings := environment.map fun (name, value) =>
      (name, { value := some value, isExported := true })
    name := []
    descriptors :=
      [(0, .reading (.device .null)), (1, .writing (.printed .output)),
       (2, .writing (.printed .diagnostics))]
    shared :=
      { tree, lastProcess := firstProcess, live := [firstProcess, firstProcess - 1]
        steps := maxSteps } }

/-- Runs a tool of the host. One that is stuck is killed. -/
def run (tree : FileTree) (directory : Location) (environment : List (String × Bytes))
    (launch : Launch) : Finished :=
  let (result, state) := ((become (eval maxDepth) launch : Action Unit).run).run
    (State.initial tree directory environment)
  { ended := match result with
      | .error (.over ended) => ended
      | _ => .killed 9
    printed := state.shared.printed.reverse
    tree := state.shared.tree }

end Shell

end HostProvision
