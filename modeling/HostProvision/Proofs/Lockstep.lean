import HostProvision.Plan
import HostProvision.Proofs.Transcript

/-! # Procedures in step

Two procedures are in step if they ask the same things in the same order, as long as they are
answered alike. What counts as alike is up to a `Likeness`, and what the procedures tell does not
matter at all, so this says which part of the answers a procedure goes by.

* **The rules**: `Procedure.InStep.bind` for sequences, `Step.InStep.bind` for steps, and one rule
  for each operation of a step, down to `Step.InStep.timed`.
* **In step on two hosts**, `Procedure.InStep.run`: on hosts that answer alike whatever they were
  asked before, procedures in step make the same calls and end with related results. -/

namespace HostProvision

variable {σ τ α β γ δ : Type}

/-- Which answers to a request are alike. -/
abbrev Likeness : Type :=
  (request : Request) → request.Answer → request.Answer → Prop

/-- Answers are alike, and the first of them is known to be as said. -/
def Likeness.knowing (alike : Likeness) (known : (request : Request) → request.Answer → Prop) :
    Likeness :=
  fun request answer other => alike request answer other ∧ known request answer

namespace Procedure

variable {alike narrower : Likeness} {ends : α → β → Prop} {ends' : γ → δ → Prop}

/-- Two procedures ask the same things as long as they are answered alike, and end with related
values. -/
inductive InStep (alike : Likeness) (ends : α → β → Prop) :
    Procedure α → Procedure β → Prop where
  /-- Both are done. -/
  | done {value : α} {other : β} (related : ends value other) :
      InStep alike ends (.done value) (.done other)
  /-- The first one tells something. -/
  | notifyLeft (notice : Notice) {next : Procedure α} {other : Procedure β}
      (rest : InStep alike ends next other) : InStep alike ends (.notify notice next) other
  /-- The second one tells something. -/
  | notifyRight (notice : Notice) {next : Procedure α} {other : Procedure β}
      (rest : InStep alike ends next other) : InStep alike ends next (.notify notice other)
  /-- Both ask the same, and stay in step if the answers are alike. -/
  | ask (request : Request) {next : request.Answer → Procedure α}
      {other : request.Answer → Procedure β}
      (rest : ∀ answer reply, alike request answer reply →
        InStep alike ends (next answer) (other reply)) :
      InStep alike ends (.ask request next) (.ask request other)

namespace InStep

/-- Sequences are in step if their parts are. -/
theorem bind {first : Procedure α} {first' : Procedure β} {second : α → Procedure γ}
    {second' : β → Procedure δ} (hfirst : InStep alike ends first first')
    (hsecond : ∀ value other, ends value other →
      InStep alike ends' (second value) (second' other)) :
    InStep alike ends' (first >>= second) (first' >>= second') := by
  induction hfirst with
  | done related => exact hsecond _ _ related
  | notifyLeft notice _ ih => exact .notifyLeft notice ih
  | notifyRight notice _ ih => exact .notifyRight notice ih
  | ask request _ ih => exact .ask request ih

/-- What stays in step stays so if fewer answers count as alike. -/
theorem mono {first : Procedure α} {second : Procedure β} (h : InStep alike ends first second)
    (fewer : ∀ request answer reply, narrower request answer reply →
      alike request answer reply) : InStep narrower ends first second := by
  induction h with
  | done related => exact .done related
  | notifyLeft notice _ ih => exact .notifyLeft notice ih
  | notifyRight notice _ ih => exact .notifyRight notice ih
  | ask request _ ih =>
    exact .ask request fun answer reply like => ih answer reply (fewer request answer reply like)

end InStep

end Procedure

/-! ## Hosts that answer alike -/

/-- What a call asks. -/
def Call.request : Call → Request
  | command mode line _ => .command mode line
  | lookup program _ => .lookup program

namespace World

/-- The state of a host after it was asked some things. -/
def after (world : World σ) (history : List Request) (state : σ) : σ :=
  history.foldl (fun reached request => (world.handle request reached).state) state

/-- Two hosts answer alike whatever they were asked before. -/
def AnswersLike (alike : Likeness) (first : World σ) (state : σ) (second : World τ) (start : τ) :
    Prop :=
  ∀ (history : List Request) (request : Request),
    alike request (first.handle request (first.after history state)).answer
      (second.handle request (second.after history start)).answer

variable {alike : Likeness} {first : World σ} {second : World τ} {state : σ} {start : τ}

/-- Hosts that answer alike give alike answers to the first request. -/
theorem AnswersLike.head (h : AnswersLike alike first state second start) (request : Request) :
    alike request (first.handle request state).answer (second.handle request start).answer :=
  h [] request

/-- Hosts that answer alike go on doing so. -/
theorem AnswersLike.tail (h : AnswersLike alike first state second start) (request : Request) :
    AnswersLike alike first (first.handle request state).state second
      (second.handle request start).state :=
  fun history => h (request :: history)

end World

/-- **In step on two hosts.** Take hosts that answer alike whatever they were asked before, and
procedures that are in step when it is known besides what one of the hosts answers in its run. They
make the same calls there and end with related values. -/
theorem Procedure.InStep.run {alike : Likeness}
    {known : (request : Request) → request.Answer → Prop} {ends : α → β → Prop}
    {procedure : Procedure α} {other : Procedure β}
    (h : InStep (alike.knowing known) ends procedure other) {first : World σ} {second : World τ}
    {state : σ} {start : τ} (answersLike : first.AnswersLike alike state second start)
    (seen : ∀ request answer,
      .exchange request answer ∈ (first.run procedure state).entries → known request answer) :
    (first.run procedure state).calls.map Call.request =
        (second.run other start).calls.map Call.request ∧
      ends (first.run procedure state).value (second.run other start).value := by
  induction h generalizing state start with
  | done related => exact ⟨rfl, related⟩
  | notifyLeft notice _ ih =>
    exact ih answersLike fun request answer mem => seen request answer (List.mem_cons_of_mem _ mem)
  | notifyRight notice _ ih => exact ih answersLike seen
  | @ask request next other rest ih =>
    -- Both hosts are asked the same, so they are in alike states for what follows as well.
    have like := answersLike.head request
    have recorded : known request (first.handle request state).answer := by
      refine seen request _ ?_
      rw [World.run]
      exact List.mem_append_right _ List.mem_cons_self
    have later : ∀ asked answer,
        .exchange asked answer ∈ (first.run (next (first.handle request state).answer)
          (first.handle request state).state).entries → known asked answer := by
      intro asked answer mem
      refine seen asked answer ?_
      rw [World.run]
      exact List.mem_append_right _ (List.mem_cons_of_mem _ mem)
    obtain ⟨calls, value⟩ := ih _ _ ⟨like, recorded⟩ (answersLike.tail request) later
    refine ⟨?_, value⟩
    rw [World.calls_run_ask, World.calls_run_ask, List.map_append, List.map_append, calls]
    congr 1
    cases request <;> rfl

/-! ## Steps in step -/

/-- Two results agree: both are the same failure, or both are values, which are related. -/
inductive Agree (same : α → β → Prop) : Except Failure α → Except Failure β → Prop where
  /-- Related values. -/
  | ok {value : α} {other : β} (related : same value other) : Agree same (.ok value) (.ok other)
  /-- The same failure. -/
  | error (failure : Failure) : Agree same (.error failure) (.error failure)

/-- What agrees on more agrees on less. -/
theorem Agree.mono {same weaker : α → β → Prop} {result : Except Failure α}
    {other : Except Failure β} (h : Agree same result other)
    (weaken : ∀ value another, same value another → weaker value another) :
    Agree weaker result other := by
  cases h with
  | ok related => exact .ok (weaken _ _ related)
  | error failure => exact .error failure

namespace Step

/-- Related values, measured under the same name. -/
def SameMeasured (same : α → β → Prop) (measured : α × StepRecord) (other : β × StepRecord) :
    Prop :=
  same measured.1 other.1 ∧ measured.2.name = other.2.name

/-- Two steps ask the same things as long as they are answered alike, and their results agree. -/
def InStep (alike : Likeness) (same : α → β → Prop) (first : Step α) (second : Step β) : Prop :=
  Procedure.InStep alike (Agree same) first.run second.run

variable {alike : Likeness} {same : α → β → Prop} {same' : γ → δ → Prop}

theorem inStep_pure {value : α} {other : β} (related : same value other) :
    InStep alike same (pure value) (pure other) :=
  .done (.ok related)

theorem inStep_throw (failure : Failure) :
    InStep alike same (throw failure : Step α) (throw failure : Step β) :=
  .done (.error failure)

theorem inStep_ofExcept {result : Except Failure α} {other : Except Failure β}
    (agree : Agree same result other) : InStep alike same (ofExcept result) (ofExcept other) :=
  .done agree

/-- A command is asked for on both sides, and replies that are alike are related. -/
theorem inStep_command {mode : Mode} {line : CommandLine} {same : Reply → Reply → Prop}
    (received : ∀ answer reply, alike (.command mode line) answer reply →
      Agree same (received answer) (received reply)) :
    InStep alike same (command mode line) (command mode line) := by
  refine .ask (.command mode line) fun answer reply like => ?_
  have agree := received answer reply like
  cases answer <;> cases reply <;> exact .done agree

/-- A program is looked up on both sides. -/
theorem inStep_lookup {program : String} {same : Bool → Bool → Prop}
    (found : ∀ answer reply, alike (.lookup program) answer reply → same answer reply) :
    InStep alike same (lookup program) (lookup program) :=
  .ask (.lookup program) fun answer reply like => .done (.ok (found answer reply like))

/-- The clock is read on both sides, whatever it shows. -/
theorem inStep_clock : InStep alike (fun _ _ => True) clock clock :=
  .ask .clock fun _ _ _ => .done (.ok trivial)

namespace InStep

/-- Sequences of steps are in step if their parts are: a failure ends both. -/
theorem bind {first : Step α} {first' : Step β} {second : α → Step γ} {second' : β → Step δ}
    (hfirst : InStep alike same first first')
    (hsecond : ∀ value other, same value other → InStep alike same' (second value) (second' other)) :
    InStep alike same' (first >>= second) (first' >>= second') := by
  rw [InStep, ExceptT.run_bind, ExceptT.run_bind]
  refine Procedure.InStep.bind hfirst fun result other agree => ?_
  cases agree with
  | ok related => exact hsecond _ _ related
  | error failure => exact .done (.error failure)

/-- Steps that are in step stay so if more is known about the answers. -/
theorem knowing {first : Step α} {second : Step β} (h : InStep alike same first second)
    (known : (request : Request) → request.Answer → Prop) :
    InStep (alike.knowing known) same first second :=
  h.mono fun _ _ _ like => like.1

/-- What is done with the values of steps keeps them in step. -/
theorem map {first : Step α} {second : Step β} (h : InStep alike same first second)
    {change : α → γ} {change' : β → δ}
    (related : ∀ value other, same value other → same' (change value) (change' other)) :
    InStep alike same' (change <$> first) (change' <$> second) := by
  rw [← bind_pure_comp, ← bind_pure_comp]
  exact h.bind fun value other hsame => inStep_pure (related value other hsame)

/-- Log messages, which may differ, keep steps in step. -/
theorem log_bind {event event' : Event} {next : Unit → Step α} {other : Unit → Step β}
    (h : InStep alike same (next ()) (other ())) :
    InStep alike same (log event >>= next) (log event' >>= other) :=
  .notifyLeft _ (.notifyRight _ h)

/-- Keeping the failures of steps as values keeps them in step. -/
theorem attempt {first : Step α} {second : Step β} (h : InStep alike same first second) :
    InStep alike (Agree same) (ExceptT.lift (ExceptT.run first))
      (ExceptT.lift (ExceptT.run second)) := by
  rw [InStep, ExceptT.run_lift, ExceptT.run_lift, ← bind_pure_comp, ← bind_pure_comp]
  exact Procedure.InStep.bind h fun _ _ agree => .done (.ok agree)

/-- A span keeps steps in step. -/
theorem inSpan {first : Step α} {second : Step β} (h : InStep alike same first second)
    (span : Span) : InStep alike same (inSpan span first) (inSpan span second) := by
  have inside : Procedure.InStep alike (Agree same)
      (first.run >>= fun result => .notify .leave (.done result))
      (second.run >>= fun result => .notify .leave (.done result)) :=
    Procedure.InStep.bind h fun _ _ agree => .notifyLeft _ (.notifyRight _ (.done agree))
  exact .notifyLeft _ (.notifyRight _ inside)

/-- Measured steps are in step, and their records bear the same name, whatever the clock shows. -/
theorem timed {first : Step α} {second : Step β} (h : InStep alike same first second)
    (name : String) :
    InStep alike (SameMeasured same) (timed name first) (timed name second) := by
  refine log_bind (inStep_clock.bind fun start begun _ => h.attempt.bind fun kept other agree =>
    inStep_clock.bind fun stop ended _ => ?_)
  cases agree with
  | ok related => exact log_bind (inStep_pure ⟨related, rfl⟩)
  | error failure => exact log_bind (inStep_throw failure)

end InStep

/-- A command that has to succeed, after which replies of success that are alike are related. -/
theorem inStep_commandChecked {mode : Mode} {line : CommandLine} {same : Reply → Reply → Prop}
    (received : ∀ answer reply, alike (.command mode line) answer reply →
      Agree (fun first second => first.code = second.code ∧ same first second)
        (received answer) (received reply)) :
    InStep alike same (commandChecked mode line) (commandChecked mode line) := by
  refine (inStep_command received).bind fun reply other ⟨code, related⟩ => ?_
  have succeeded : other.succeeded = reply.succeeded := by rw [Reply.succeeded, ← code]; rfl
  refine inStep_ofExcept ?_
  rw [Reply.check, Reply.check, succeeded, ← code]
  by_cases passed : reply.succeeded
  · rw [if_pos passed, if_pos passed]
    exact .ok related
  · rw [if_neg passed, if_neg passed]
    exact .error _

end Step

end HostProvision
