import HostProvision.Proofs.Cli.Publication

/-! # The course of a command

What the parts of a command tell and ask.

* **What calls nothing has no calls**, `World.calls_run_of_callsNothing`, and adds none to those of
  what it comes after.
* **Reading the settings** only tells, `Settings.run_load`.
* **What follows provisioning**, `Cli.RunOptions.within_announce`: nothing is asked for but to add
  to the path file. -/

namespace HostProvision

variable {σ α β : Type}

/-! ## What calls nothing -/

namespace Procedure

/-- A procedure that asks for nothing that is a call. -/
abbrev CallsNothing (procedure : Procedure α) : Prop :=
  procedure.Within (fun _ => True) fun request =>
    ∀ answer, (Entry.exchange request answer).call? = none

end Procedure

/-- A step that asks for nothing that is a call. -/
abbrev Step.CallsNothing (step : Step α) : Prop :=
  step.run.CallsNothing

namespace World

variable (world : World σ)

/-- The calls of a sequence are those of its first part and then those of its second part. -/
theorem calls_run_bind (first : Procedure α) (second : α → Procedure β) (state : σ) :
    (world.run (first >>= second) state).calls =
      (world.run first state).calls ++
        (world.run (second (world.run first state).value) (world.run first state).state).calls := by
  rw [run_bind, Run.calls, List.filterMap_append]
  rfl

/-- What calls nothing has no calls. -/
theorem calls_run_of_callsNothing {procedure : Procedure α} (h : procedure.CallsNothing)
    (state : σ) : (world.run procedure state).calls = [] := by
  induction procedure generalizing state with
  | done value => rfl
  | notify notice next ih => exact ih h.2 state
  | ask request next ih =>
    rw [calls_run_ask, h.1, Option.toList_none, List.nil_append]
    exact ih _ (h.2 _) _

/-- A span calls what is called inside it. -/
theorem calls_run_inSpan (span : Span) (body : Step α) (state : σ) :
    (world.run (Step.inSpan span body).run state).calls = (world.run body.run state).calls := by
  have inside : (world.run (Step.inSpan span body).run state).calls =
      (world.run (body.run >>= fun kept => .notify .leave (.done kept)) state).calls := rfl
  rw [inside, calls_run_bind]
  exact List.append_nil _

/-- What calls nothing after a step adds no call. -/
theorem calls_run_step_bind (first : Step α) {second : α → Step β}
    (quiet : ∀ value, (second value).CallsNothing) (state : σ) :
    (world.run (first >>= second).run state).calls = (world.run first.run state).calls := by
  rw [ExceptT.run_bind, calls_run_bind]
  cases (world.run first.run state).value with
  | ok value => rw [world.calls_run_of_callsNothing (quiet value), List.append_nil]
  | error failure => exact List.append_nil _

end World

/-- What is told while settings are read from an environment. -/
def Settings.loadingNotices (environment : Cli.Environment) : List Notice :=
  .event .loadingSettings :: (readingEvents environment.variables).map .event

/-- **Reading the settings** only tells: the result is what the variables give. -/
theorem Settings.run_load (environment : Cli.Environment) :
    (load environment).run =
      .telling (loadingNotices environment) (ofVariables environment.variables) := by
  have logs : ∀ events : List Event,
      (events.forM Step.log >>= fun _ => Step.ofExcept (ofVariables environment.variables)).run =
        .telling (events.map .event) (ofVariables environment.variables) := by
    intro events
    induction events with
    | nil => rfl
    | cons event events ih => exact congrArg (Procedure.notify (.event event)) ih
  exact congrArg (Procedure.notify (.event .loadingSettings))
    (logs (readingEvents environment.variables))

/-- Reading the settings only logs. -/
theorem Settings.within_load {tells : Notice → Prop} {asks : Request → Prop}
    (events : ∀ event, tells (.event event)) (environment : Cli.Environment) :
    Step.Within tells asks (load environment) := by
  rw [Step.Within, run_load]
  refine Procedure.within_telling (fun notice mem => ?_) _
  rcases List.mem_cons.mp mem with rfl | later
  · exact events _
  · obtain ⟨event, -, rfl⟩ := List.mem_map.mp later
    exact events event

/-- After the settings were read, a sequence calls what its second part calls if they can be used,
and otherwise nothing. -/
theorem Settings.calls_run_load_bind (world : World σ) (environment : Cli.Environment)
    (next : Settings → Step α) (state : σ) :
    (world.run (load environment >>= next).run state).calls =
      match ofVariables environment.variables with
      | .ok settings => (world.run (next settings).run state).calls
      | .error _ => [] := by
  have told : (world.run (load environment).run state).calls = [] := by
    rw [run_load, World.run_telling]
    exact Entry.filterMap_call?_map_told _
  rw [ExceptT.run_bind, World.calls_run_bind, told, run_load, World.run_telling, List.nil_append]
  cases ofVariables environment.variables <;> rfl

namespace Cli

/-- A request to add to the path file, if there is one. -/
def RunOptions.AsksPathFile (options : RunOptions) (request : Request) : Prop :=
  ∃ file content, options.pathFile = some file ∧ request = .append (Utf8.encode file) content

/-- Publishing an update only asks to add to the path file. -/
theorem RunOptions.within_publish (options : RunOptions) (environment : Environment)
    (update : PathUpdate) :
    Step.Within (fun _ => True) options.AsksPathFile (options.publish environment update) := by
  refine Step.Within.bind (Step.within_ofExcept _) fun path => ?_
  refine (Step.within_log trivial).bind fun _ => ?_
  have printed : Step.Within (fun _ => True) options.AsksPathFile
      (ExceptT.lift (Procedure.printLine update.exportLine)) := ⟨trivial, trivial⟩
  cases given : options.pathFile with
  | none => exact printed
  | some file =>
    refine Step.Within.bind ⟨⟨file, _, given, rfl⟩, fun answer => ?_⟩ fun _ => printed
    cases answer with
    | ok done => exact ⟨trivial, trivial⟩
    | error cause => trivial

/-- After provisioning, the command only asks to add to the path file: it sums up what was done and
publishes the update. -/
theorem RunOptions.within_announce (options : RunOptions) (environment : Environment)
    (report : Report) :
    Step.Within (fun _ => True) options.AsksPathFile (do
      (summary environment.wantsColour report).forM fun line =>
        ExceptT.lift (Procedure.showLine line)
      options.publish environment report.pathUpdate) :=
  Step.Within.bind (Step.within_forM fun _ _ => ⟨trivial, trivial⟩) fun _ =>
    options.within_publish environment report.pathUpdate

end Cli

end HostProvision
