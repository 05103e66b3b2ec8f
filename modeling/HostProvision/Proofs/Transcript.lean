import HostProvision.World

/-! # Transcripts of procedures

A transcript is what a runner of commands sees of a procedure: the commands and lookups that were
made, each with its answer, and the value that the procedure ended with. `Procedure.Yields` tells
which transcripts a procedure has. It speaks of no host and of no state, because every answer that a
host gives stands in the transcript.

* **Every run is a transcript**, `World.run_yields`, and **every transcript is a run** of some
  world, `Procedure.yields_iff_exists_run`, so what holds of all transcripts holds of all hosts.
* **Sequences**, `Procedure.yields_bind_iff` and `Step.yields_bind_iff`: the transcript of a
  sequence is that of the first part followed by that of the second, and nothing follows a failure.
* **Requests**, `Step.yields_command_iff` and its companions: one call for each. -/

namespace HostProvision

variable {σ α β : Type}

namespace Procedure

/-- A procedure can make these calls, in this order and with these answers, and end with this
value. -/
inductive Yields : Procedure α → List Call → α → Prop where
  /-- A procedure that is done calls nothing more. -/
  | done (value : α) : Yields (.done value) [] value
  /-- Notices are no calls. -/
  | notify (notice : Notice) {next : Procedure α} {calls : List Call} {value : α}
      (rest : Yields next calls value) : Yields (.notify notice next) calls value
  /-- A request is a call if it concerns a command or a program. -/
  | ask (request : Request) (answer : request.Answer) {next : request.Answer → Procedure α}
      {calls : List Call} {value : α} (rest : Yields (next answer) calls value) :
      Yields (.ask request next)
        ((Entry.exchange request answer).call?.toList ++ calls) value

/-- A procedure that is done has one transcript. -/
@[simp] theorem yields_done_iff {ended value : α} {calls : List Call} :
    Yields (.done ended) calls value ↔ calls = [] ∧ value = ended := by
  constructor
  · intro h
    cases h
    exact ⟨rfl, rfl⟩
  · rintro ⟨rfl, rfl⟩
    exact .done value

/-- A notice leaves the transcript as it is. -/
@[simp] theorem yields_notify_iff {notice : Notice} {next : Procedure α} {calls : List Call}
    {value : α} : Yields (.notify notice next) calls value ↔ Yields next calls value := by
  constructor
  · intro h
    cases h with
    | notify _ rest => exact rest
  · exact .notify notice

/-- After a request the transcript goes on with that of what follows the answer. -/
theorem yields_ask_iff {request : Request} {next : request.Answer → Procedure α}
    {calls : List Call} {value : α} :
    Yields (.ask request next) calls value ↔
      ∃ (answer : request.Answer) (rest : List Call),
        calls = (Entry.exchange request answer).call?.toList ++ rest ∧
          Yields (next answer) rest value := by
  constructor
  · intro h
    cases h with
    | ask _ answer rest => exact ⟨answer, _, rfl, rest⟩
  · rintro ⟨answer, rest, rfl, h⟩
    exact .ask request answer h

/-- **The transcript of a sequence** is a transcript of its first part followed by one of its
second part. -/
theorem yields_bind_iff {first : Procedure α} {second : α → Procedure β} {calls : List Call}
    {value : β} :
    Yields (first >>= second) calls value ↔
      ∃ (middle : α) (before after : List Call), calls = before ++ after ∧
        Yields first before middle ∧ Yields (second middle) after value := by
  constructor
  · intro h
    -- How the first part goes on hangs on the answers, so the calls change along the induction.
    induction first generalizing calls with
    | done middle => exact ⟨middle, [], calls, rfl, .done middle, h⟩
    | notify notice next ih =>
      rw [notify_bind, yields_notify_iff] at h
      obtain ⟨middle, before, after, rfl, hfirst, hsecond⟩ := ih h
      exact ⟨middle, before, after, rfl, .notify notice hfirst, hsecond⟩
    | ask request next ih =>
      rw [ask_bind, yields_ask_iff] at h
      obtain ⟨answer, rest, rfl, h⟩ := h
      obtain ⟨middle, before, after, rfl, hfirst, hsecond⟩ := ih answer h
      exact ⟨middle, _ ++ before, after, (List.append_assoc ..).symm,
        .ask request answer hfirst, hsecond⟩
  · rintro ⟨middle, before, after, rfl, hfirst, hsecond⟩
    induction hfirst with
    | done middle => exact hsecond
    | notify notice _ ih => exact .notify notice (ih hsecond)
    | ask request answer _ ih =>
      rw [List.append_assoc]
      exact .ask request answer (ih hsecond)

end Procedure

/-! ## Transcripts and runs -/

/-- Notices are no calls. -/
@[simp] theorem Entry.filterMap_call?_map_told (notices : List Notice) :
    (notices.map Entry.told).filterMap Entry.call? = [] := by
  rw [List.filterMap_map, List.filterMap_eq_nil_iff]
  intro notice _
  rfl

/-- The calls of a run that begins with a request: its own, if it is one, and those of the rest. -/
theorem World.calls_run_ask (world : World σ) (request : Request)
    (next : request.Answer → Procedure α) (state : σ) :
    (world.run (.ask request next) state).calls =
      (Entry.exchange request (world.handle request state).answer).call?.toList ++
        (world.run (next (world.handle request state).answer)
          (world.handle request state).state).calls := by
  rw [Run.calls, World.run, List.filterMap_append, Entry.filterMap_call?_map_told,
    List.nil_append, List.filterMap_cons]
  cases (Entry.exchange request (world.handle request state).answer).call? <;> rfl

/-- **Every run is a transcript**: what a procedure calls on a host, and the value it ends with. -/
theorem World.run_yields (world : World σ) (procedure : Procedure α) (state : σ) :
    procedure.Yields (world.run procedure state).calls (world.run procedure state).value := by
  induction procedure generalizing state with
  | done value => exact .done value
  | notify notice next ih => exact .notify notice (ih state)
  | ask request next ih =>
    rw [World.calls_run_ask]
    exact .ask request _ (ih _ _)

/-- Some answer to a request. -/
def Request.someAnswer : (request : Request) → request.Answer
  | .clock => .zero
  | .command .. => .ok Reply.success
  | .lookup _ => false
  | .append .. => .ok ()
  | .openLogs _ => .opened

/-- A host that gives prepared answers in order, as long as they fit what is asked. -/
def World.replay : World (List (Σ request : Request, request.Answer)) where
  handle
    | request, ⟨prepared, answer⟩ :: rest =>
      if same : prepared = request then ⟨same ▸ answer, [], rest⟩
      else ⟨request.someAnswer, [], rest⟩
    | request, [] => ⟨request.someAnswer, [], []⟩

/-- A prepared answer is given to the request that it is for. -/
@[simp] theorem World.handle_replay (request : Request) (answer : request.Answer)
    (rest : List (Σ request : Request, request.Answer)) :
    World.replay.handle request (⟨request, answer⟩ :: rest) = ⟨answer, [], rest⟩ := by
  simp [World.replay]

/-- **Transcripts are runs.** A procedure has exactly the transcripts that it leaves on some host in
some state. -/
theorem Procedure.yields_iff_exists_run {procedure : Procedure α} {calls : List Call}
    {value : α} :
    procedure.Yields calls value ↔
      ∃ (σ : Type) (world : World σ) (state : σ),
        (world.run procedure state).calls = calls ∧
          (world.run procedure state).value = value := by
  constructor
  · intro h
    suffices ∃ answers, (World.replay.run procedure answers).calls = calls ∧
        (World.replay.run procedure answers).value = value by
      obtain ⟨answers, h⟩ := this
      exact ⟨_, World.replay, answers, h⟩
    -- The answers to prepare are read off the transcript from its end.
    induction h with
    | done value => exact ⟨[], rfl, rfl⟩
    | notify notice _ ih => exact ih
    | ask request answer _ ih =>
      obtain ⟨answers, hcalls, hvalue⟩ := ih
      refine ⟨⟨request, answer⟩ :: answers, ?_, ?_⟩
      · rw [World.calls_run_ask, World.handle_replay, hcalls]
      · rw [World.run, World.handle_replay]
        exact hvalue
  · rintro ⟨σ, world, state, rfl, rfl⟩
    exact world.run_yields procedure state

/-! ## Steps

The transcript of a step ends with its result. A step that fails does nothing more, so a failure of
the first part of a sequence is the end of the whole. -/

namespace Step

/-- A step can make these calls, in this order and with these answers, and end with this result. -/
def Yields (step : Step α) (calls : List Call) (result : Except Failure α) : Prop :=
  Procedure.Yields step.run calls result

/-- A value is had without any call. -/
@[simp] theorem yields_pure_iff {value : α} {calls : List Call} {result : Except Failure α} :
    Yields (pure value) calls result ↔ calls = [] ∧ result = .ok value :=
  Procedure.yields_done_iff

/-- A failure is reported without any call. -/
@[simp] theorem yields_throw_iff {failure : Failure} {calls : List Call}
    {result : Except Failure α} :
    Yields (throw failure) calls result ↔ calls = [] ∧ result = .error failure :=
  Procedure.yields_done_iff

/-- A settled result is had without any call. -/
@[simp] theorem yields_ofExcept_iff {settled : Except Failure α} {calls : List Call}
    {result : Except Failure α} :
    Yields (ofExcept settled) calls result ↔ calls = [] ∧ result = settled :=
  Procedure.yields_done_iff

/-- **The transcript of a sequence of steps.** Either the first part fails and nothing follows, or
the second part goes on with the value of the first. -/
theorem yields_bind_iff {first : Step α} {second : α → Step β} {calls : List Call}
    {result : Except Failure β} :
    Yields (first >>= second) calls result ↔
      (∃ failure, result = .error failure ∧ Yields first calls (.error failure)) ∨
        ∃ (value : α) (before after : List Call), calls = before ++ after ∧
          Yields first before (.ok value) ∧ Yields (second value) after result := by
  rw [Yields, ExceptT.run_bind, Procedure.yields_bind_iff]
  constructor
  · rintro ⟨middle, before, after, rfl, hfirst, hsecond⟩
    cases middle with
    | ok value => exact .inr ⟨value, before, after, rfl, hfirst, hsecond⟩
    | error failure =>
      -- The second part is passed over and adds no call.
      obtain ⟨rfl, rfl⟩ := Procedure.yields_done_iff.mp hsecond
      rw [List.append_nil]
      exact .inl ⟨failure, rfl, hfirst⟩
  · rintro (⟨failure, rfl, hfirst⟩ | ⟨value, before, after, rfl, hfirst, hsecond⟩)
    · exact ⟨.error failure, calls, [], (List.append_nil _).symm, hfirst, .done _⟩
    · exact ⟨.ok value, before, after, rfl, hfirst, hsecond⟩

/-- A second part that calls nothing only changes the value of the first. -/
theorem yields_bind_quiet_iff {first : Step α} {second : α → Step β} {change : α → β}
    (quiet : ∀ value after result,
      Yields (second value) after result ↔ after = [] ∧ result = .ok (change value))
    {calls : List Call} {result : Except Failure β} :
    Yields (first >>= second) calls result ↔
      ∃ before : Except Failure α, Yields first calls before ∧ result = before.map change := by
  rw [yields_bind_iff]
  constructor
  · rintro (⟨failure, rfl, h⟩ | ⟨value, before, after, rfl, h, hsecond⟩)
    · exact ⟨.error failure, h, rfl⟩
    · obtain ⟨rfl, rfl⟩ := (quiet value after result).mp hsecond
      rw [List.append_nil]
      exact ⟨.ok value, h, rfl⟩
  · rintro ⟨before, h, rfl⟩
    cases before with
    | error failure => exact .inl ⟨failure, rfl, h⟩
    | ok value =>
      exact .inr ⟨value, calls, [], (List.append_nil _).symm, h,
        (quiet value [] _).mpr ⟨rfl, rfl⟩⟩

/-- What is done with the value of a step changes no call. -/
theorem yields_map_iff {step : Step α} {change : α → β} {calls : List Call}
    {result : Except Failure β} :
    Yields (change <$> step) calls result ↔
      ∃ before : Except Failure α, Yields step calls before ∧ result = before.map change := by
  rw [← bind_pure_comp]
  exact yields_bind_quiet_iff fun _ _ _ => yields_pure_iff

/-- Log messages are no calls. -/
@[simp] theorem yields_log_bind_iff {event : Event} {next : Unit → Step α} {calls : List Call}
    {result : Except Failure α} :
    Yields (log event >>= next) calls result ↔ Yields (next ()) calls result :=
  Procedure.yields_notify_iff

/-- How an answer to a command goes on as a result. -/
def received (answer : Except IoError Reply) : Except Failure Reply :=
  answer.mapError .io

/-- **A command is one call**, and its answer is the result. -/
theorem yields_command_iff {mode : Mode} {line : CommandLine} {calls : List Call}
    {result : Except Failure Reply} :
    Yields (command mode line) calls result ↔
      ∃ answer, calls = [.command mode line answer] ∧ result = received answer := by
  have run : (command mode line).run =
      Procedure.ask (.command mode line) fun answer => .done (received answer) := by
    refine congrArg (Procedure.ask _) (funext fun answer => ?_)
    cases answer <;> rfl
  rw [Yields, run, Procedure.yields_ask_iff]
  constructor
  · rintro ⟨answer, rest, rfl, h⟩
    obtain ⟨rfl, rfl⟩ := Procedure.yields_done_iff.mp h
    exact ⟨answer, rfl, rfl⟩
  · rintro ⟨answer, rfl, rfl⟩
    exact ⟨answer, [], rfl, .done _⟩

/-- After a command that could be run, a sequence goes on with its reply. -/
theorem yields_command_bind_iff {mode : Mode} {line : CommandLine} {next : Reply → Step α}
    {calls : List Call} {result : Except Failure α} :
    Yields (command mode line >>= next) calls result ↔
      (∃ cause, calls = [.command mode line (.error cause)] ∧ result = .error (.io cause)) ∨
        ∃ (reply : Reply) (rest : List Call), calls = .command mode line (.ok reply) :: rest ∧
          Yields (next reply) rest result := by
  rw [yields_bind_iff]
  constructor
  · rintro (⟨failure, rfl, h⟩ | ⟨reply, before, after, rfl, h, hnext⟩)
    · obtain ⟨answer, rfl, hanswer⟩ := yields_command_iff.mp h
      cases answer with
      | error cause =>
        cases hanswer
        exact .inl ⟨cause, rfl, rfl⟩
      | ok reply => cases hanswer
    · obtain ⟨answer, rfl, hanswer⟩ := yields_command_iff.mp h
      cases answer with
      | error cause => cases hanswer
      | ok given =>
        cases hanswer
        exact .inr ⟨reply, after, rfl, hnext⟩
  · rintro (⟨cause, rfl, rfl⟩ | ⟨reply, rest, rfl, h⟩)
    · exact .inl ⟨.io cause, rfl, yields_command_iff.mpr ⟨_, rfl, rfl⟩⟩
    · exact .inr ⟨reply, [_], rest, rfl, yields_command_iff.mpr ⟨_, rfl, rfl⟩, h⟩

/-- **A lookup is one call**, after which a sequence goes on with its answer. -/
theorem yields_lookup_bind_iff {program : String} {next : Bool → Step α} {calls : List Call}
    {result : Except Failure α} :
    Yields (lookup program >>= next) calls result ↔
      ∃ (found : Bool) (rest : List Call), calls = .lookup program found :: rest ∧
        Yields (next found) rest result := by
  rw [Yields, lookup, ExceptT.run_bind, ExceptT.run_lift, bind_map_left]
  exact Procedure.yields_ask_iff

/-- Reading the clock is no call. -/
theorem yields_clock_bind_iff {next : Elapsed → Step α} {calls : List Call}
    {result : Except Failure α} :
    Yields (clock >>= next) calls result ↔ ∃ reading, Yields (next reading) calls result := by
  rw [Yields, clock, ExceptT.run_bind, ExceptT.run_lift, bind_map_left]
  constructor
  · intro h
    obtain ⟨reading, rest, rfl, h⟩ := Procedure.yields_ask_iff.mp h
    exact ⟨reading, h⟩
  · rintro ⟨reading, h⟩
    exact .ask .clock reading h

/-- A step whose failure is kept as a value is called in the same way, and what follows it goes on
in either case. -/
theorem yields_attempt_bind_iff {step : Step α} {next : Except Failure α → Step β}
    {calls : List Call} {result : Except Failure β} :
    Yields (ExceptT.lift (ExceptT.run step) >>= next) calls result ↔
      ∃ (kept : Except Failure α) (before after : List Call), calls = before ++ after ∧
        Yields step before kept ∧ Yields (next kept) after result := by
  rw [Yields, ExceptT.run_bind, ExceptT.run_lift, bind_map_left]
  exact Procedure.yields_bind_iff

/-- A span changes no call. -/
@[simp] theorem yields_inSpan_iff {span : Span} {body : Step α} {calls : List Call}
    {result : Except Failure α} :
    Yields (inSpan span body) calls result ↔ Yields body calls result := by
  -- A span is left after a failure too, as the result of the body is kept until then.
  have run : (inSpan span body).run = Procedure.notify (.enter span)
      (body.run >>= fun kept => Procedure.notify .leave (.done kept)) := rfl
  rw [Yields, run, Procedure.yields_notify_iff, Procedure.yields_bind_iff]
  constructor
  · rintro ⟨kept, before, after, rfl, hbody, hleave⟩
    obtain ⟨rfl, rfl⟩ := Procedure.yields_done_iff.mp (Procedure.yields_notify_iff.mp hleave)
    rw [List.append_nil]
    exact hbody
  · intro h
    exact ⟨result, calls, [], (List.append_nil _).symm, h, .notify .leave (.done result)⟩

/-- The result of a command that has to succeed, by the answer to it. -/
def checked (line : CommandLine) : Except IoError Reply → Except Failure Reply
  | .ok reply => reply.check line
  | .error cause => .error (.io cause)

/-- A checked answer is accepted if it is a reply of success. -/
theorem checked_eq_ok_iff {line : CommandLine} {answer : Except IoError Reply} {reply : Reply} :
    checked line answer = .ok reply ↔ answer = .ok reply ∧ reply.succeeded = true := by
  cases answer with
  | error cause => simp [checked]
  | ok given =>
    cases succeeded : given.succeeded with
    | true =>
      rw [checked, Reply.check_of_succeeded line succeeded]
      constructor
      · rintro h
        cases h
        exact ⟨rfl, succeeded⟩
      · rintro ⟨h, -⟩
        cases h
        rfl
    | false =>
      rw [checked, Reply.check_of_not_succeeded line succeeded]
      constructor
      · intro h
        cases h
      · rintro ⟨same, h⟩
        rw [← Except.ok.inj same, succeeded] at h
        cases h

/-- A checked answer is refused if the command could not be run, and if its reply is not one of
success; the failure tells which. -/
theorem checked_eq_error_iff {line : CommandLine} {answer : Except IoError Reply}
    {failure : Failure} :
    checked line answer = .error failure ↔
      (∃ cause, answer = .error cause ∧ failure = .io cause) ∨
        ∃ reply, answer = .ok reply ∧ reply.succeeded = false ∧
          failure = .commandFailed line.render reply.code := by
  constructor
  · intro refused
    cases answer with
    | error cause => exact .inl ⟨cause, rfl, (Except.error.inj refused).symm⟩
    | ok reply =>
      cases succeeded : reply.succeeded with
      | true =>
        rw [checked, Reply.check_of_succeeded line succeeded] at refused
        cases refused
      | false =>
        rw [checked, Reply.check_of_not_succeeded line succeeded] at refused
        exact .inr ⟨reply, rfl, succeeded, (Except.error.inj refused).symm⟩
  · rintro (⟨cause, rfl, rfl⟩ | ⟨reply, rfl, failed, rfl⟩)
    · rfl
    · exact Reply.check_of_not_succeeded line failed

/-- **A command that has to succeed is one call**, and its answer settles the result. -/
theorem yields_commandChecked_iff {mode : Mode} {line : CommandLine} {calls : List Call}
    {result : Except Failure Reply} :
    Yields (commandChecked mode line) calls result ↔
      ∃ answer, calls = [.command mode line answer] ∧ result = checked line answer := by
  rw [commandChecked, yields_bind_iff]
  constructor
  · rintro (⟨failure, rfl, h⟩ | ⟨reply, before, after, rfl, h, hcheck⟩)
    · obtain ⟨answer, rfl, hanswer⟩ := yields_command_iff.mp h
      refine ⟨answer, rfl, ?_⟩
      cases answer with
      | error cause => exact hanswer
      | ok reply => cases hanswer
    · obtain ⟨answer, rfl, hanswer⟩ := yields_command_iff.mp h
      obtain ⟨rfl, rfl⟩ := yields_ofExcept_iff.mp hcheck
      refine ⟨answer, rfl, ?_⟩
      cases answer with
      | error cause => cases hanswer
      | ok reply =>
        cases hanswer
        rfl
  · rintro ⟨answer, rfl, rfl⟩
    cases answer with
    | error cause => exact .inl ⟨.io cause, rfl, yields_command_iff.mpr ⟨_, rfl, rfl⟩⟩
    | ok reply =>
      exact .inr ⟨reply, _, [], rfl, yields_command_iff.mpr ⟨_, rfl, rfl⟩,
        yields_ofExcept_iff.mpr ⟨rfl, rfl⟩⟩

/-- After a command that had to succeed and did, a sequence goes on with its reply. -/
theorem yields_commandChecked_bind_iff {mode : Mode} {line : CommandLine}
    {next : Reply → Step α} {calls : List Call} {result : Except Failure α} :
    Yields (commandChecked mode line >>= next) calls result ↔
      (∃ answer failure, checked line answer = .error failure ∧
        calls = [.command mode line answer] ∧ result = .error failure) ∨
        ∃ (reply : Reply) (rest : List Call), reply.succeeded = true ∧
          calls = .command mode line (.ok reply) :: rest ∧ Yields (next reply) rest result := by
  rw [yields_bind_iff]
  constructor
  · rintro (⟨failure, rfl, h⟩ | ⟨reply, before, after, rfl, h, hnext⟩)
    · obtain ⟨answer, rfl, refused⟩ := yields_commandChecked_iff.mp h
      exact .inl ⟨answer, failure, refused.symm, rfl, rfl⟩
    · obtain ⟨answer, rfl, passed⟩ := yields_commandChecked_iff.mp h
      obtain ⟨rfl, succeeded⟩ := checked_eq_ok_iff.mp passed.symm
      exact .inr ⟨reply, after, succeeded, rfl, hnext⟩
  · rintro (⟨answer, failure, refused, rfl, rfl⟩ | ⟨reply, rest, succeeded, rfl, h⟩)
    · exact .inl ⟨failure, rfl, yields_commandChecked_iff.mpr ⟨answer, rfl, refused.symm⟩⟩
    · have passed : checked line (.ok reply) = .ok reply := checked_eq_ok_iff.mpr ⟨rfl, succeeded⟩
      exact .inr ⟨reply, [_], rest, rfl, yields_commandChecked_iff.mpr ⟨_, rfl, passed.symm⟩, h⟩

/-- What a step gives is of no account for what follows if it is discarded. -/
@[simp] theorem discard_bind (step : Step α) (next : Unit → Step β) :
    discard step >>= next = step >>= fun _ => next () :=
  bind_map_left (Function.const α ()) step next

/-- **A command of which only the success counts** is one call, and its answer settles the
result. -/
theorem yields_discard_commandChecked_iff {mode : Mode} {line : CommandLine} {calls : List Call}
    {result : Except Failure Unit} :
    Yields (discard (commandChecked mode line)) calls result ↔
      ∃ answer, calls = [.command mode line answer] ∧
        result = (checked line answer).map fun _ => () := by
  constructor
  · intro h
    obtain ⟨before, hchecked, rfl⟩ := yields_map_iff.mp h
    obtain ⟨answer, rfl, rfl⟩ := yields_commandChecked_iff.mp hchecked
    exact ⟨answer, rfl, rfl⟩
  · rintro ⟨answer, rfl, rfl⟩
    exact yields_map_iff.mpr ⟨_, yields_commandChecked_iff.mpr ⟨answer, rfl, rfl⟩, rfl⟩

end Step

end HostProvision
