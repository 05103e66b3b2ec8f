import HostProvision.Cli.Program
import HostProvision.Proofs.Elapsed.Total
import HostProvision.Proofs.Transcript
import HostProvision.Script

/-! # How long provisioning takes

The steps of a run are measured one after another, so on a clock that never goes back they take no
longer together than the run as a whole, and the sum of their times can be told.

* `World.Steady` says that the clock of a host never goes back.
* **Time is paid for**, `World.Pays`: what the value of a step counts as spent is paid for by the
  time that goes by in the step and by a credit from before. The rules follow the ways in which
  steps are put together, and `World.Steady.pays_timed` is where time is measured.
* **A dry run is a run on another host**, `World.run_rehearse`, which has the same clock.
* **The sum of the steps can be told**, `Cli.RunOptions.totalElapsed_of_provision`, so what is shown
  of it is never the longest time in its place. -/

namespace HostProvision

variable {σ α β : Type}

namespace Elapsed

/-- The time between two readings of a clock is no more than the later one is ahead. -/
theorem totalNanos_since_le (later earlier : Elapsed) :
    (later.since earlier).totalNanos ≤ later.totalNanos - earlier.totalNanos := by
  rw [since]
  cases fits : ofNanos? (later.totalNanos - earlier.totalNanos) with
  | none => exact Nat.zero_le _
  | some elapsed => exact Nat.le_of_eq (ofNanos?_eq_some_iff.mp fits)

/-- Times that add up to no more than a time that can be told have a sum. -/
theorem exists_total_of_sumNanos_le {times : List Elapsed} {bound : Elapsed}
    (le : sumNanos times ≤ bound.totalNanos) :
    ∃ sum, total? times = some sum ∧ sum.totalNanos = sumNanos times := by
  cases fits : total? times with
  | none =>
    have overflows := total?_eq_none_iff.mp fits
    exact absurd (overflows.mono le) (not_overflows_totalNanos bound)
  | some sum => exact ⟨sum, rfl, total?_eq_some_iff.mp fits⟩

end Elapsed

/-! ## Clocks that never go back -/

namespace World

/-- A host whose clock never goes back: no request turns back the time of its state, and the clock
shows a time between those before and after it is read. -/
structure Steady (world : World σ) (time : σ → Elapsed) : Prop where
  /-- No request turns the time back. -/
  advances : ∀ request state,
    (time state).totalNanos ≤ (time (world.handle request state).state).totalNanos
  /-- The clock is not behind the time before. -/
  follows : ∀ state, (time state).totalNanos ≤ (world.handle .clock state).answer.totalNanos
  /-- The clock is not ahead of the time after. -/
  precedes : ∀ state, (world.handle .clock state).answer.totalNanos ≤
    (time (world.handle .clock state).state).totalNanos

/-- The clock of scripted hosts stands still. -/
theorem steady_script : Script.world.Steady fun _ => .zero :=
  ⟨fun _ _ => Nat.le_refl _, fun _ => Nat.le_refl _, fun _ => Nat.le_refl _⟩

/-- Whenever a step ends with a value, what the value counts as spent is no more than the time that
went by in the step and a credit. -/
def Pays (world : World σ) (time : σ → Elapsed) (credit : Nat) (step : Step α)
    (spent : α → Nat) : Prop :=
  ∀ state value, (world.run step.run state).value = .ok value →
    (time state).totalNanos + spent value ≤
      (time (world.run step.run state).state).totalNanos + credit

namespace Pays

variable {world : World σ} {time : σ → Elapsed} {credit : Nat} {spent : α → Nat}

/-- What a step spends is the credit of what follows it. -/
theorem bind {first : Step α} {second : α → Step β} {spent' : β → Nat}
    (hfirst : world.Pays time credit first spent)
    (hsecond : ∀ value, world.Pays time (spent value) (second value) spent') :
    world.Pays time credit (first >>= second) spent' := by
  intro state value ended
  rw [ExceptT.run_bind, run_bind] at ended ⊢
  dsimp only at ended ⊢
  cases kept : (world.run first.run state).value with
  | error failure =>
    rw [kept] at ended
    cases ended
  | ok middle =>
    rw [kept] at ended
    have before := hfirst state middle kept
    have after := hsecond middle _ value ended
    dsimp only
    omega

/-- A value spends the credit. -/
theorem pure {value : α} (within : spent value ≤ credit) :
    world.Pays time credit (pure value) spent := by
  intro state other ended
  cases ended
  exact Nat.add_le_add_left within _

/-- Credit that a step does not need is spent besides. -/
theorem frame {step : Step α} (h : world.Pays time 0 step spent) (credit : Nat) :
    world.Pays time credit step fun value => spent value + credit := by
  intro state value ended
  have paid := h state value ended
  dsimp only
  omega

/-- A span takes no time. -/
theorem inSpan {body : Step α} (h : world.Pays time credit body spent) (span : Span) :
    world.Pays time credit (Step.inSpan span body) spent := by
  intro state value ended
  have inside : world.run (Step.inSpan span body).run state =
      world.run (.notify (.enter span) (body.run >>= fun kept => .notify .leave (.done kept)))
        state := rfl
  rw [inside, run, run_bind] at ended ⊢
  exact h state value ended

end Pays

/-- **The run of a measured step**: the clock is read, the step is done, and the clock is read
again. -/
theorem run_timed (world : World σ) (name : String) (body : Step α) (state : σ) :
    let begun := world.handle .clock state
    let inside := world.run body.run begun.state
    let ended := world.handle .clock inside.state
    let record : StepRecord := ⟨name, ended.answer.since begun.answer⟩
    let run := world.run (Step.timed name body).run state
    run.value = inside.value.map (fun value => (value, record)) ∧ run.state = ended.state := by
  simp only [Step.timed, Step.log, Step.clock, ExceptT.run_bind_lift, Procedure.log,
    Procedure.tell, Procedure.request, Procedure.notify_bind, Procedure.done_bind,
    Procedure.ask_bind, run, run_bind]
  cases (world.run body.run (world.handle .clock state).state).value with
  | ok value => exact ⟨rfl, rfl⟩
  | error failure => exact ⟨rfl, rfl⟩

namespace Steady

variable {world : World σ} {time : σ → Elapsed} (steady : world.Steady time)

include steady

/-- No procedure turns the time back. -/
theorem le_run (procedure : Procedure α) (state : σ) :
    (time state).totalNanos ≤ (time (world.run procedure state).state).totalNanos := by
  induction procedure generalizing state with
  | done value => exact Nat.le_refl _
  | notify notice next ih => exact ih state
  | ask request next ih => exact Nat.le_trans (steady.advances request state) (ih _ _)

/-- A step that measures nothing leaves the credit to what follows it. -/
theorem pays_unmeasured (step : Step α) (credit : Nat) :
    world.Pays time credit step fun _ => credit :=
  fun state _ _ => Nat.add_le_add_right (steady.le_run step.run state) credit

/-- **A measured step** has taken no longer than the time that went by in it. -/
theorem pays_timed (name : String) (body : Step α) :
    world.Pays time 0 (Step.timed name body) fun measured => measured.2.elapsed.totalNanos := by
  intro state measured ended
  obtain ⟨value, after⟩ := world.run_timed name body state
  rw [ended] at value
  cases kept : (world.run body.run (world.handle .clock state).state).value with
  | error failure =>
    rw [kept] at value
    cases value
  | ok result =>
    rw [kept] at value
    cases value
    -- The readings and the times of the states follow one another.
    have before := steady.follows state
    have begun := steady.precedes state
    have inside := steady.le_run body.run (world.handle .clock state).state
    have stopped := steady.follows (world.run body.run (world.handle .clock state).state).state
    have behind := steady.precedes (world.run body.run (world.handle .clock state).state).state
    have measured := Elapsed.totalNanos_since_le
      (world.handle .clock (world.run body.run (world.handle .clock state).state).state).answer
      (world.handle .clock state).answer
    rw [after]
    dsimp only
    omega

end Steady

end World

/-! ## Provisioning -/

/-- The nanoseconds that are recorded of some steps together. -/
def recordedNanos (records : List StepRecord) : Nat :=
  Elapsed.sumNanos (records.map StepRecord.elapsed)

@[simp] theorem recordedNanos_nil : recordedNanos [] = 0 := rfl

@[simp] theorem recordedNanos_singleton (record : StepRecord) :
    recordedNanos [record] = record.elapsed.totalNanos := by
  simp [recordedNanos]

@[simp] theorem recordedNanos_append (first second : List StepRecord) :
    recordedNanos (first ++ second) = recordedNanos first + recordedNanos second := by
  simp [recordedNanos]

namespace World.Steady

variable {world : World σ} {time : σ → Elapsed} (steady : world.Steady time)

include steady

/-- Ensuring a formula is one measured step. -/
theorem pays_ensure (tooling : Tooling) (formula : Formula) :
    world.Pays time 0 (tooling.ensure formula) fun measured => measured.2.elapsed.totalNanos :=
  (steady.pays_timed _ _).bind fun _ =>
    (steady.pays_unmeasured _ _).bind fun _ => Pays.pure (Nat.le_refl _)

/-- What a stage records is paid for. -/
theorem pays_stage (tooling : Tooling) (stage : Stage) :
    world.Pays time 0 (stage.run tooling) recordedNanos := by
  have recorded {value : Type} {step : Step (value × StepRecord)}
      (h : world.Pays time 0 step fun measured => measured.2.elapsed.totalNanos) :
      world.Pays time 0 (step >>= fun measured => pure [measured.2]) recordedNanos :=
    h.bind fun measured => Pays.pure (Nat.le_of_eq (recordedNanos_singleton measured.2))
  have nothing : world.Pays time 0 (pure []) recordedNanos := Pays.pure (Nat.zero_le _)
  cases stage with
  | update => exact recorded (steady.pays_timed _ _)
  | ensure formula => exact recorded (steady.pays_ensure tooling formula)
  | ensureUnlessFound formula =>
    refine (steady.pays_unmeasured (Step.lookup formula.name) 0).bind fun found => ?_
    cases found with
    | true => exact (steady.pays_unmeasured _ 0).bind fun _ => nothing
    | false => exact recorded (steady.pays_ensure tooling formula)
  -- The other stages record one step, or none.
  | keepCompiler compiler => exact (steady.pays_unmeasured _ 0).bind fun _ => nothing
  | install formula => exact recorded (steady.pays_timed _ _)
  | pipInstall package => exact recorded (steady.pays_timed _ _)

/-- What stages record one after another is paid for. -/
theorem pays_runAll (tooling : Tooling) (stages : List Stage) :
    world.Pays time 0 (Stage.runAll tooling stages) recordedNanos := by
  induction stages with
  | nil => exact Pays.pure (Nat.zero_le _)
  | cons stage rest ih =>
    -- What the first stage has recorded is the credit that the others leave alone.
    refine (steady.pays_stage tooling stage).bind fun first => ?_
    refine (ih.frame (recordedNanos first)).bind fun others => Pays.pure ?_
    exact Nat.le_of_eq ((recordedNanos_append first others).trans (Nat.add_comm _ _))

/-- **What provisioning records is paid for.** -/
theorem pays_provision (plan : Plan) (tooling : Tooling) :
    world.Pays time 0 (plan.provision tooling) fun report => recordedNanos report.steps := by
  refine ((steady.pays_runAll tooling plan.stages).bind fun steps => ?_).inSpan _
  exact (steady.pays_unmeasured _ (recordedNanos steps)).bind fun _ => Pays.pure (Nat.le_refl _)

end World.Steady

/-! ## Dry runs -/

namespace World

/-- The host on which a dry run takes place: commands are shown and count as done, and everything
else is left to the host. -/
def rehearsing (world : World σ) : World σ where
  handle
    | .command _ line, state => ⟨.ok Reply.success,
        [.diagnostics (Utf8.encode (Procedure.rehearsalLine line ++ "\n"))], state⟩
    | request, state => world.handle request state

/-- **A dry run is a run on that host**, with the same result and the same state after it. -/
theorem run_rehearse (world : World σ) (procedure : Procedure α) (state : σ) :
    (world.run procedure.rehearse state).value = (world.rehearsing.run procedure state).value ∧
      (world.run procedure.rehearse state).state =
        (world.rehearsing.run procedure state).state := by
  induction procedure generalizing state with
  | done value => exact ⟨rfl, rfl⟩
  | notify notice next ih => exact ih state
  | ask request next ih =>
    -- Commands are answered without the host, so its state stays.
    cases request with
    | command mode line => exact ih _ state
    | clock | lookup _ | append _ _ | openLogs _ => exact ih _ _

/-- The clock of that host goes back no more than that of the host itself. -/
theorem Steady.rehearsing {world : World σ} {time : σ → Elapsed} (steady : world.Steady time) :
    world.rehearsing.Steady time where
  advances request state := by
    cases request with
    | command mode line => exact Nat.le_refl _
    | clock | lookup _ | append _ _ | openLogs _ => exact steady.advances _ state
  follows := steady.follows
  precedes := steady.precedes

/-- What is paid for on that host is paid for in a dry run. -/
theorem Pays.rehearse {world : World σ} {time : σ → Elapsed} {credit : Nat} {step : Step α}
    {spent : α → Nat} (h : world.rehearsing.Pays time credit step spent) :
    world.Pays time credit step.rehearse spent := by
  intro state value ended
  obtain ⟨result, after⟩ := world.run_rehearse step.run state
  have paid := h state value (result.symm.trans ended)
  rw [← after] at paid
  exact paid

end World

namespace Cli.RunOptions

variable {world : World σ} {time : σ → Elapsed} (steady : world.Steady time)
  (options : RunOptions) (settings : Settings) (compiler : Compiler)

include steady

/-- What provisioning records is paid for, whether or not it is a dry run. -/
theorem pays_provision :
    world.Pays time 0 (options.provision settings compiler) fun report =>
      recordedNanos report.steps := by
  rw [provision]
  by_cases dry : options.dryRun
  · rw [if_pos dry]
    exact (steady.rehearsing.pays_provision _ _).rehearse
  · rw [if_neg dry]
    exact steady.pays_provision _ _

/-- **The sum of the steps can be told.** Provisioning that ends with a report on a host whose clock
never goes back has a total time, which is no more than the time that went by. -/
theorem totalElapsed_of_provision {state : σ} {report : Report}
    (ended : (world.run (options.provision settings compiler).run state).value = .ok report) :
    ∃ total, report.totalElapsed? = some total ∧
      (time state).totalNanos + total.totalNanos ≤
        (time (world.run (options.provision settings compiler).run state).state).totalNanos := by
  have paid := options.pays_provision steady settings compiler state report ended
  rw [Nat.add_zero] at paid
  have fits := Nat.le_trans (Nat.le_add_left (recordedNanos report.steps) _) paid
  obtain ⟨total, told, same⟩ := Elapsed.exists_total_of_sumNanos_le fits
  refine ⟨total, told, ?_⟩
  rw [same]
  exact paid

omit steady in
/-- On a scripted host, where no time goes by, the sum is no time at all. -/
theorem totalElapsed_of_provision_script {script : Script} {report : Report}
    (ended : (Script.world.run (options.provision settings compiler).run script).value =
      .ok report) :
    report.totalElapsed? = some .zero := by
  obtain ⟨total, told, within⟩ :=
    options.totalElapsed_of_provision World.steady_script settings compiler ended
  have nothing : total.totalNanos = 0 := Nat.le_zero.mp (Nat.le_of_add_le_add_left within)
  have same := total.ofNanos?_totalNanos
  rw [nothing] at same
  rw [told, ← same]
  rfl

end Cli.RunOptions

/-- A host whose clock goes back after each step that is measured. -/
def World.flickering : World Bool where
  handle
    | .clock, isLate => ⟨if isLate then .longest else .zero, [], !isLate⟩
    | request, isLate => ⟨request.someAnswer, [], isLate⟩

-- On such a host two steps together are longer than any time that can be told.
example :
    let provision :=
      Cli.RunOptions.provision { dryRun := true } ⟨"/usr/local", "brew", "pip3"⟩ .gcc5
    (World.flickering.run provision.run false).value.toOption.map Report.totalElapsed? =
      some none := by
  decide +kernel

end HostProvision
