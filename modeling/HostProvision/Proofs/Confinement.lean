import HostProvision.Plan
import HostProvision.World

/-! # What procedures tell and ask

`Procedure.Within` bounds a procedure by what it may tell and what it may ask, whatever answers it
gets. The bounds of a sequence are those of its parts, so a whole program is bounded by going
through it once.

* **A dry run keeps within the bounds** of the procedure, except that it also shows lines, and asks
  for no command: `Procedure.Within.rehearse_asks`.
* **Provisioning only logs and calls**, `Plan.onlyLogs_provision`: of itself it tells nothing but
  log messages, and it asks for nothing but commands, lookups and the time. -/

namespace HostProvision

variable {α β : Type} {tells tells' : Notice → Prop} {asks asks' : Request → Prop}

namespace Procedure

/-- All that a procedure tells and asks is as said, whatever it is answered. -/
def Within (tells : Notice → Prop) (asks : Request → Prop) : Procedure α → Prop
  | done _ => True
  | notify notice next => tells notice ∧ next.Within tells asks
  | ask request next => asks request ∧ ∀ answer, (next answer).Within tells asks

namespace Within

/-- A sequence keeps within bounds if its parts do. -/
theorem bind {first : Procedure α} {second : α → Procedure β} (hfirst : first.Within tells asks)
    (hsecond : ∀ value, (second value).Within tells asks) :
    (first >>= second).Within tells asks := by
  induction first with
  | done value => exact hsecond value
  | notify notice next ih => exact ⟨hfirst.1, ih hfirst.2⟩
  | ask request next ih => exact ⟨hfirst.1, fun answer => ih answer (hfirst.2 answer)⟩

/-- Bounds can be widened. -/
theorem mono {procedure : Procedure α} (h : procedure.Within tells asks)
    (htells : ∀ notice, tells notice → tells' notice)
    (hasks : ∀ request, asks request → asks' request) : procedure.Within tells' asks' := by
  induction procedure with
  | done value => trivial
  | notify notice next ih => exact ⟨htells notice h.1, ih h.2⟩
  | ask request next ih => exact ⟨hasks request h.1, fun answer => ih answer (h.2 answer)⟩

/-- **A dry run keeps within the bounds of the procedure**, if it may show lines, and asks for no
command. -/
theorem rehearse_asks {procedure : Procedure α} (h : procedure.Within tells asks)
    (shows : ∀ octets, tells (.diagnostics octets)) :
    procedure.rehearse.Within tells fun request =>
      asks request ∧ ∀ mode line, request ≠ .command mode line := by
  induction procedure with
  | done value => trivial
  | notify notice next ih => exact ⟨h.1, ih h.2⟩
  | ask request next ih =>
    cases request with
    | command mode line => exact ⟨shows _, ih _ (h.2 _)⟩
    | _ => exact ⟨⟨h.1, fun _ _ => nofun⟩, fun answer => ih answer (h.2 answer)⟩

/-- A dry run keeps within the bounds of the procedure, if it may show lines. -/
theorem rehearse {procedure : Procedure α} (h : procedure.Within tells asks)
    (shows : ∀ octets, tells (.diagnostics octets)) : procedure.rehearse.Within tells asks :=
  (h.rehearse_asks shows).mono (fun _ => id) fun _ => And.left

end Within

/-- Telling one thing after another keeps within bounds if each of them does. -/
theorem within_forM {items : List β} {body : β → Procedure Unit}
    (h : ∀ item ∈ items, (body item).Within tells asks) :
    (items.forM body).Within tells asks := by
  induction items with
  | nil => trivial
  | cons item items ih =>
    obtain ⟨first, others⟩ := List.forall_mem_cons.mp h
    exact first.bind fun _ => ih others

end Procedure

namespace Step

/-- All that a step tells and asks is as said, whatever it is answered. -/
def Within (tells : Notice → Prop) (asks : Request → Prop) (step : Step α) : Prop :=
  Procedure.Within tells asks step.run

theorem within_pure (value : α) : Within tells asks (pure value : Step α) := trivial

theorem within_throw (failure : Failure) : Within tells asks (throw failure : Step α) := trivial

theorem within_ofExcept (result : Except Failure α) : Within tells asks (ofExcept result) := trivial

theorem within_log {event : Event} (h : tells (.event event)) : Within tells asks (log event) :=
  ⟨h, trivial⟩

theorem within_lookup {program : String} (h : asks (.lookup program)) :
    Within tells asks (lookup program) :=
  ⟨h, fun _ => trivial⟩

theorem within_clock (h : asks .clock) : Within tells asks clock :=
  ⟨h, fun _ => trivial⟩

theorem within_command {mode : Mode} {line : CommandLine} (h : asks (.command mode line)) :
    Within tells asks (command mode line) := by
  refine ⟨h, fun answer => ?_⟩
  cases answer <;> trivial

/-- A procedure keeps within its bounds as a step that cannot fail. -/
theorem within_lift {procedure : Procedure α} (h : procedure.Within tells asks) :
    Within tells asks (ExceptT.lift procedure) := by
  rw [Within, ExceptT.run_lift, ← bind_pure_comp]
  exact h.bind fun _ => trivial

namespace Within

/-- A sequence of steps keeps within bounds if its parts do. -/
theorem bind {first : Step α} {second : α → Step β} (hfirst : first.Within tells asks)
    (hsecond : ∀ value, (second value).Within tells asks) :
    (first >>= second).Within tells asks := by
  rw [Within, ExceptT.run_bind]
  refine Procedure.Within.bind hfirst fun result => ?_
  cases result with
  | ok value => exact hsecond value
  | error failure => trivial

/-- What is done with the value of a step is neither told nor asked. -/
theorem map {step : Step α} (h : step.Within tells asks) (change : α → β) :
    (change <$> step).Within tells asks := by
  rw [← bind_pure_comp]
  exact h.bind fun value => within_pure (change value)

/-- Keeping the failure of a step as a value changes no bounds. -/
theorem attempt {step : Step α} (h : step.Within tells asks) :
    Step.Within tells asks (ExceptT.lift (ExceptT.run step)) :=
  within_lift h

/-- A span tells of its beginning and its end. -/
theorem inSpan {body : Step α} (h : body.Within tells asks) {span : Span}
    (enters : tells (.enter span)) (leaves : tells .leave) :
    (inSpan span body).Within tells asks := by
  have inside : body.run.Within tells asks := h
  exact ⟨enters, inside.bind fun _ => ⟨leaves, trivial⟩⟩

/-- A measured step logs, and reads the clock. -/
theorem timed {body : Step α} (h : body.Within tells asks) (events : ∀ event, tells (.event event))
    (reads : asks .clock) (name : String) : (timed name body).Within tells asks := by
  refine (within_log (events _)).bind fun _ => (within_clock reads).bind fun start =>
    h.attempt.bind fun kept => (within_clock reads).bind fun stop => ?_
  cases kept with
  | ok value => exact (within_log (events _)).bind fun _ => within_pure _
  | error failure => exact (within_log (events _)).bind fun _ => within_throw failure

end Within

theorem within_commandChecked {mode : Mode} {line : CommandLine}
    (h : asks (.command mode line)) : Within tells asks (commandChecked mode line) :=
  (within_command h).bind fun _ => within_ofExcept _

/-- One step after another keeps within bounds if each of them does. -/
theorem within_forM {items : List β} {body : β → Step Unit}
    (h : ∀ item ∈ items, (body item).Within tells asks) : (items.forM body).Within tells asks := by
  induction items with
  | nil => exact within_pure ()
  | cons item items ih =>
    obtain ⟨first, others⟩ := List.forall_mem_cons.mp h
    exact first.bind fun _ => ih others

end Step

/-! ## Provisioning -/

/-- Log messages, and the spans around them. -/
def Notice.IsLog : Notice → Prop
  | event _ | enter _ | leave => True
  | diagnostics _ | output _ => False

/-- Commands, lookups and the time. -/
def Request.IsCall : Request → Prop
  | clock | command .. | lookup _ => True
  | append .. | openLogs _ => False

/-- A step that tells nothing but log messages, and asks for nothing but commands, lookups and the
time. -/
abbrev Step.OnlyLogs (step : Step α) : Prop :=
  step.Within Notice.IsLog Request.IsCall

namespace Step

theorem onlyLogs_log (event : Event) : (log event).OnlyLogs :=
  within_log trivial

theorem onlyLogs_log_bind {event : Event} {next : Unit → Step α} (h : (next ()).OnlyLogs) :
    (log event >>= next).OnlyLogs :=
  (onlyLogs_log event).bind fun _ => h

theorem onlyLogs_timed {body : Step α} (h : body.OnlyLogs) (name : String) :
    (timed name body).OnlyLogs :=
  h.timed (fun _ => trivial) trivial name

end Step

namespace Homebrew

variable {brew : Homebrew} {formula : Formula} (events : ∀ event, tells (.event event))
  (commands : ∀ mode line, asks (.command mode line))

include events commands

theorem within_ensureNewest : Step.Within tells asks (brew.ensureNewest formula) := by
  refine Step.Within.bind ((Step.within_command (commands _ _)).bind fun reply =>
    (Step.within_log (events _)).bind fun _ => Step.within_pure _) fun status => ?_
  by_cases needed : status.needsUpgrade
  · rw [if_pos needed]
    exact (Step.within_log (events _)).bind fun _ =>
      ((Step.within_commandChecked (commands _ _)).map _).bind fun _ => Step.within_pure _
  · rw [if_neg needed]
    exact (Step.within_log (events _)).bind fun _ => Step.within_pure _

theorem within_ensurePresent : Step.Within tells asks (brew.ensurePresent formula) := by
  refine (Step.within_log (events _)).bind fun _ =>
    (Step.within_command (commands _ _)).bind fun installation => ?_
  by_cases installed : installation.succeeded
  · rw [if_pos installed]
    exact Step.within_pure _
  · rw [if_neg installed]
    refine (Step.within_log (events _)).bind fun _ =>
      (Step.within_command (commands _ _)).bind fun relinking => ?_
    by_cases relinked : relinking.succeeded
    · rw [if_pos relinked]
      exact Step.within_pure _
    · rw [if_neg relinked]
      exact Step.within_throw _

/-- Ensuring a formula tells of nothing but log messages, and asks for nothing but commands. -/
theorem within_ensure : Step.Within tells asks (brew.ensure formula) := by
  refine Step.Within.bind (((Step.within_commandChecked (commands _ _)).bind fun reply =>
    Step.within_pure _).bind fun names =>
      (Step.within_log (events _)).bind fun _ => Step.within_pure _) ?_
  intro installed
  cases installed with
  | true => exact within_ensureNewest events commands
  | false => exact within_ensurePresent events commands

end Homebrew

/-- Ensuring a formula as a measured step also reads the clock. -/
theorem Tooling.within_ensure {tooling : Tooling} {formula : Formula}
    (events : ∀ event, tells (.event event)) (commands : ∀ mode line, asks (.command mode line))
    (reads : asks .clock) : (tooling.ensure formula).Within tells asks :=
  ((Homebrew.within_ensure events commands).timed events reads _).bind fun _ =>
    (Step.within_log (events _)).bind fun _ => Step.within_pure _

/-- Ensuring a formula as a measured step only logs and calls. -/
theorem Tooling.onlyLogs_ensure {tooling : Tooling} {formula : Formula} :
    (tooling.ensure formula).OnlyLogs :=
  within_ensure (fun _ => trivial) (fun _ _ => trivial) trivial

namespace Stage

variable {tooling : Tooling}

/-- A stage only logs and calls. -/
theorem onlyLogs_run (stage : Stage) : (stage.run tooling).OnlyLogs := by
  cases stage with
  | update =>
    exact (Step.onlyLogs_timed ((Step.within_commandChecked trivial).map _) _).bind fun _ =>
      Step.within_pure _
  | ensure formula => exact Tooling.onlyLogs_ensure.bind fun _ => Step.within_pure _
  | ensureUnlessFound formula =>
    refine (Step.within_lookup trivial).bind fun found => ?_
    cases found with
    | true => exact Step.onlyLogs_log_bind (Step.within_pure _)
    | false => exact Tooling.onlyLogs_ensure.bind fun _ => Step.within_pure _
  | keepCompiler compiler => exact Step.onlyLogs_log_bind (Step.within_pure _)
  | install formula =>
    exact (Step.onlyLogs_timed ((Step.within_commandChecked trivial).map _) _).bind fun _ =>
      Step.within_pure _
  | pipInstall package =>
    exact (Step.onlyLogs_timed ((Step.within_commandChecked trivial).map _) _).bind fun _ =>
      Step.within_pure _

/-- Stages one after another only log and call. -/
theorem onlyLogs_runAll (stages : List Stage) : (runAll tooling stages).OnlyLogs := by
  induction stages with
  | nil => exact Step.within_pure _
  | cons stage rest ih =>
    exact (onlyLogs_run stage).bind fun _ => ih.bind fun _ => Step.within_pure _

end Stage

/-- **Provisioning only logs and calls.** -/
theorem Plan.onlyLogs_provision (plan : Plan) (tooling : Tooling) :
    (plan.provision tooling).OnlyLogs := by
  refine Step.Within.inSpan ((Stage.onlyLogs_runAll plan.stages).bind fun steps => ?_) trivial
    trivial
  exact Step.onlyLogs_log_bind (Step.within_pure (⟨steps, ⟨plan.binDirectory⟩⟩ : Report))

end HostProvision
