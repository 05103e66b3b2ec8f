import HostProvision.Proofs.Confinement
import HostProvision.Proofs.Lockstep
import HostProvision.Proofs.Notices
import Mathlib.Data.List.Forall2

/-! # Runs that differ in measured times only

Two runs of one program on hosts that only their clocks tell apart have the same course: notice for
notice and request for request, and what is told differs in measured times at most.

* `SameButTime` relates texts, and `Notice.Alike` what is told.
* **The rules**: `Procedure.Parallel.bind` for sequences and `Step.Parallel.timed` for measured
  steps. What does not read the clock is parallel to itself, `Procedure.parallel_refl`.
* **Parallel on two hosts**, `Procedure.Parallel.run`: the records correspond entry by entry, so the
  runs make the same calls, print the same and add the same to files. -/

namespace HostProvision

variable {σ τ α β γ δ : Type}

/-! ## What is told -/

/-- Two texts are the same, except for one measured time at most. -/
def SameButTime (text other : String) : Prop :=
  text = other ∨ ∃ (before after : String) (elapsed passed : Elapsed),
    text = before ++ elapsed.render ++ after ∧ other = before ++ passed.render ++ after

namespace SameButTime

variable {text other : String}

/-- What is added behind two texts is the same on both sides. -/
theorem append (h : SameButTime text other) (more : String) :
    SameButTime (text ++ more) (other ++ more) := by
  rcases h with rfl | ⟨before, after, elapsed, passed, rfl, rfl⟩
  · exact .inl rfl
  · exact .inr ⟨before, after ++ more, elapsed, passed, String.append_assoc, String.append_assoc⟩

/-- What is added in front of two texts is the same on both sides. -/
theorem prepend (h : SameButTime text other) (more : String) :
    SameButTime (more ++ text) (more ++ other) := by
  rcases h with rfl | ⟨before, after, elapsed, passed, rfl, rfl⟩
  · exact .inl rfl
  · exact .inr ⟨more ++ before, after, elapsed, passed, by simp only [String.append_assoc],
      by simp only [String.append_assoc]⟩

/-- Two measured times differ in nothing else. -/
theorem render (elapsed passed : Elapsed) : SameButTime elapsed.render passed.render :=
  .inr ⟨"", "", elapsed, passed, by simp, by simp⟩

/-- Records of one step are shown with the time that each took. -/
theorem renderRecord {record other : StepRecord} (named : record.name = other.name) :
    SameButTime record.render other.render := by
  rw [StepRecord.render, StepRecord.render, named]
  exact ((render record.elapsed other.elapsed).prepend _).append _

end SameButTime

/-- Some octets are the same, or stand for texts that are, except for one measured time at most. -/
def SameOctetsButTime (octets other : Bytes) : Prop :=
  octets = other ∨ ∃ text another, octets = Utf8.encode text ∧ other = Utf8.encode another ∧
    SameButTime text another

/-- Two notices are the same, except for one measured time at most. -/
inductive Notice.Alike : Notice → Notice → Prop where
  /-- They are the same. -/
  | same (notice : Notice) : Alike notice notice
  /-- Both tell that a step is done. -/
  | stepDone {record other : StepRecord} (named : record.name = other.name) :
      Alike (.event (.stepDone record)) (.event (.stepDone other))
  /-- Both tell that a step failed. -/
  | stepFailed {record other : StepRecord} (named : record.name = other.name)
      (failure : Failure) :
      Alike (.event (.stepFailed record failure)) (.event (.stepFailed other failure))
  /-- Both show something. -/
  | diagnostics {octets other : Bytes} (same : SameOctetsButTime octets other) :
      Alike (.diagnostics octets) (.diagnostics other)

/-! ## What is asked -/

/-- Answers are the same, except for the time. -/
def Likeness.exceptTime : Likeness :=
  fun request answer other => request ≠ .clock → answer = other

/-- Two hosts that only their clocks tell apart: whatever they were asked before, they answer in the
same way and tell the same on the way. -/
structure World.Alike (first : World σ) (state : σ) (second : World τ) (start : τ) : Prop where
  /-- They answer in the same way. -/
  answers : first.AnswersLike .exceptTime state second start
  /-- They tell the same on the way. -/
  notices : ∀ (history : List Request) (request : Request),
    (first.handle request (first.after history state)).notices =
      (second.handle request (second.after history start)).notices

/-- Two entries of records are the same, except for one measured time at most. -/
inductive Entry.Alike : Entry → Entry → Prop where
  /-- The same was told. -/
  | told {notice other : Notice} (alike : notice.Alike other) : Alike (.told notice) (.told other)
  /-- The same was asked and answered. -/
  | exchange {request : Request} {answer other : request.Answer}
      (alike : Likeness.exceptTime request answer other) :
      Alike (.exchange request answer) (.exchange request other)

namespace World

variable {first : World σ} {second : World τ} {state : σ} {start : τ}

/-- Hosts that only their clocks tell apart are so after any request. -/
theorem Alike.tail (h : Alike first state second start) (request : Request) :
    Alike first (first.handle request state).state second (second.handle request start).state :=
  ⟨h.answers.tail request, fun history => h.notices (request :: history)⟩

end World

/-! ## Procedures -/

namespace Procedure

/-- Two procedures tell the same and ask the same, except for measured times, as long as they are
answered in the same way, and end with related values. -/
inductive Parallel (ends : α → β → Prop) : Procedure α → Procedure β → Prop where
  /-- Both are done. -/
  | done {value : α} {other : β} (related : ends value other) :
      Parallel ends (.done value) (.done other)
  /-- Both tell the same. -/
  | notify {notice other : Notice} (alike : notice.Alike other) {next : Procedure α}
      {next' : Procedure β} (rest : Parallel ends next next') :
      Parallel ends (.notify notice next) (.notify other next')
  /-- Both ask the same, and stay parallel if the answers are the same except for the time. -/
  | ask (request : Request) {next : request.Answer → Procedure α}
      {next' : request.Answer → Procedure β}
      (rest : ∀ answer other, Likeness.exceptTime request answer other →
        Parallel ends (next answer) (next' other)) :
      Parallel ends (.ask request next) (.ask request next')

/-- A procedure that does not read the clock. -/
abbrev Timeless (procedure : Procedure α) : Prop :=
  procedure.Within (fun _ => True) fun request => request ≠ .clock

/-- **What does not read the clock is parallel to itself.** -/
theorem parallel_refl {procedure : Procedure α} (timeless : procedure.Timeless) :
    Parallel Eq procedure procedure := by
  induction procedure with
  | done value => exact .done rfl
  | notify notice next ih => exact .notify (.same notice) (ih timeless.2)
  | ask request next ih =>
    refine .ask request fun answer other alike => ?_
    rw [alike timeless.1]
    exact ih other (timeless.2 other)

namespace Parallel

variable {ends : α → β → Prop} {ends' : γ → δ → Prop} {procedure : Procedure α}
  {other : Procedure β}

/-- Sequences are parallel if their parts are. -/
theorem bind {second : α → Procedure γ} {second' : β → Procedure δ}
    (hfirst : Parallel ends procedure other)
    (hsecond : ∀ value another, ends value another →
      Parallel ends' (second value) (second' another)) :
    Parallel ends' (procedure >>= second) (other >>= second') := by
  induction hfirst with
  | done related => exact hsecond _ _ related
  | notify alike _ ih => exact .notify alike ih
  | ask request _ ih => exact .ask request ih

/-- The values of parallel procedures may be related by less. -/
theorem mono (h : Parallel ends procedure other) {weaker : α → β → Prop}
    (weaken : ∀ value another, ends value another → weaker value another) :
    Parallel weaker procedure other := by
  induction h with
  | done related => exact .done (weaken _ _ related)
  | notify alike _ ih => exact .notify alike ih
  | ask request _ ih => exact .ask request ih

/-- Dry runs are parallel if the procedures are: the same commands are shown. -/
theorem rehearse (h : Parallel ends procedure other) :
    Parallel ends procedure.rehearse other.rehearse := by
  induction h with
  | done related => exact .done related
  | notify alike _ ih => exact .notify alike ih
  | ask request _ ih =>
    cases request with
    | command mode line => exact .notify (.same _) (ih _ _ fun _ => rfl)
    | _ => exact .ask _ ih

/-- **Parallel on two hosts** that only their clocks tell apart: the records correspond entry by
entry, and the values are related. -/
theorem run (h : Parallel ends procedure other) {first : World σ} {second : World τ} {state : σ}
    {start : τ} (hosts : World.Alike first state second start) :
    List.Forall₂ Entry.Alike (first.run procedure state).entries
        (second.run other start).entries ∧
      ends (first.run procedure state).value (second.run other start).value := by
  induction h generalizing state start with
  | done related => exact ⟨.nil, related⟩
  | notify alike _ ih =>
    obtain ⟨entries, value⟩ := ih hosts
    exact ⟨.cons (.told alike) entries, value⟩
  | ask request _ ih =>
    have alike := hosts.answers.head request
    obtain ⟨entries, value⟩ := ih _ _ alike (hosts.tail request)
    have notices : (first.handle request state).notices =
        (second.handle request start).notices := hosts.notices [] request
    have told : List.Forall₂ Entry.Alike
        ((first.handle request state).notices.map .told)
        ((second.handle request start).notices.map .told) := by
      rw [notices, List.forall₂_same]
      intro entry mem
      obtain ⟨notice, -, rfl⟩ := List.mem_map.mp mem
      exact .told (.same notice)
    exact ⟨List.rel_append told (.cons (.exchange alike) entries), value⟩

end Parallel

end Procedure

/-! ## Steps -/

namespace Step

/-- Two steps tell the same and ask the same, except for measured times, and their results agree. -/
def Parallel (same : α → β → Prop) (first : Step α) (second : Step β) : Prop :=
  Procedure.Parallel (Agree same) first.run second.run

variable {same : α → β → Prop} {same' : γ → δ → Prop}

theorem parallel_pure {value : α} {other : β} (related : same value other) :
    Parallel same (pure value) (pure other) :=
  .done (.ok related)

theorem parallel_throw (failure : Failure) :
    Parallel same (throw failure : Step α) (throw failure : Step β) :=
  .done (.error failure)

/-- The clock is read on both sides, whatever it shows. -/
theorem parallel_clock : Parallel (fun _ _ => True) clock clock :=
  .ask .clock fun _ _ _ => .done (.ok trivial)

/-- A step that does not read the clock. -/
abbrev Timeless (step : Step α) : Prop :=
  step.run.Timeless

/-- A step that does not read the clock is parallel to itself. -/
theorem parallel_refl {step : Step α} (timeless : step.Timeless) : Parallel Eq step step := by
  refine (Procedure.parallel_refl timeless).mono ?_
  rintro result _ rfl
  cases result with
  | ok value => exact .ok rfl
  | error failure => exact .error failure

namespace Parallel

variable {first : Step α} {second : Step β}

/-- Sequences of steps are parallel if their parts are: a failure ends both. -/
theorem bind {next : α → Step γ} {next' : β → Step δ} (h : Parallel same first second)
    (hnext : ∀ value other, same value other → Parallel same' (next value) (next' other)) :
    Parallel same' (first >>= next) (second >>= next') := by
  rw [Parallel, ExceptT.run_bind, ExceptT.run_bind]
  refine Procedure.Parallel.bind h fun result other agree => ?_
  cases agree with
  | ok related => exact hnext _ _ related
  | error failure => exact .done (.error failure)

/-- Log messages that are alike keep steps parallel. -/
theorem log_bind {event event' : Event} (alike : Notice.Alike (.event event) (.event event'))
    {next : Unit → Step α} {next' : Unit → Step β} (h : Parallel same (next ()) (next' ())) :
    Parallel same (log event >>= next) (log event' >>= next') :=
  .notify alike h

/-- Keeping the failures of steps as values keeps them parallel. -/
theorem attempt (h : Parallel same first second) :
    Parallel (Agree same) (ExceptT.lift (ExceptT.run first))
      (ExceptT.lift (ExceptT.run second)) := by
  rw [Parallel, ExceptT.run_lift, ExceptT.run_lift, ← bind_pure_comp, ← bind_pure_comp]
  exact Procedure.Parallel.bind h fun _ _ agree => .done (.ok agree)

/-- A span keeps steps parallel. -/
theorem inSpan (h : Parallel same first second) (span : Span) :
    Parallel same (inSpan span first) (inSpan span second) := by
  have inside : Procedure.Parallel (Agree same)
      (first.run >>= fun result => .notify .leave (.done result))
      (second.run >>= fun result => .notify .leave (.done result)) :=
    Procedure.Parallel.bind h fun _ _ agree => .notify (.same .leave) (.done agree)
  exact .notify (.same (.enter span)) inside

/-- **Measured steps are parallel** if the steps are, whatever the clocks show. -/
theorem timed (h : Parallel same first second) (name : String) :
    Parallel (SameMeasured same) (timed name first) (timed name second) := by
  refine log_bind (.same _) (parallel_clock.bind fun start begun _ => h.attempt.bind
    fun kept other agree => parallel_clock.bind fun stop ended _ => ?_)
  cases agree with
  | ok related => exact log_bind (.stepDone (by rfl)) (parallel_pure ⟨related, rfl⟩)
  | error failure => exact log_bind (.stepFailed (by rfl) failure) (parallel_throw failure)

/-- Dry runs are parallel if the steps are. -/
theorem rehearse (h : Parallel same first second) : Parallel same first.rehearse second.rehearse :=
  Procedure.Parallel.rehearse h

end Parallel

/-- Lines that are the same except for a measured time are shown in parallel. -/
theorem parallel_showLine {line other : String} (same : SameButTime line other) :
    Parallel Eq (ExceptT.lift (Procedure.showLine line))
      (ExceptT.lift (Procedure.showLine other)) :=
  .notify (.diagnostics (.inr ⟨_, _, rfl, rfl, same.append "\n"⟩)) (.done (.ok rfl))

/-- So are several lines, one after another. -/
theorem parallel_forM_showLine {lines others : List String}
    (same : List.Forall₂ SameButTime lines others) :
    Parallel Eq (lines.forM fun line => ExceptT.lift (Procedure.showLine line))
      (others.forM fun line => ExceptT.lift (Procedure.showLine line)) := by
  induction same with
  | nil => exact parallel_pure rfl
  | cons same _ ih => exact (parallel_showLine same).bind fun _ _ _ => ih

end Step

/-! ## Records -/

/-- The octets that an entry records as added to a file, with the file and with how that went. -/
def Entry.appended? : Entry → Option (Bytes × Bytes × Except IoError Unit)
  | .exchange (.append file content) answer => some (file, content, answer)
  | _ => none

/-- What a run adds to files, in order. -/
def Run.appended (run : Run σ α) : List (Bytes × Bytes × Except IoError Unit) :=
  run.entries.filterMap Entry.appended?

namespace Entry.Alike

variable {entry other : Entry}

/-- Entries that are alike record the same call. -/
theorem call?_eq (h : entry.Alike other) : entry.call? = other.call? := by
  cases h with
  | told alike => rfl
  | @exchange request answer other alike =>
    cases request with
    | clock => rfl
    | _ => rw [alike nofun]

/-- Entries that are alike add the same to files. -/
theorem appended?_eq (h : entry.Alike other) : entry.appended? = other.appended? := by
  cases h with
  | told alike => rfl
  | @exchange request answer other alike =>
    cases request with
    | clock => rfl
    | _ => rw [alike nofun]

/-- Entries that are alike print the same. -/
theorem output?_eq (h : entry.Alike other) :
    entry.notice?.bind Notice.output? = other.notice?.bind Notice.output? := by
  cases h with
  | told alike => cases alike <;> rfl
  | exchange alike => rfl

/-- Entries that are alike show the same, except for one measured time at most. -/
theorem diagnostics? (h : entry.Alike other) :
    Option.Rel SameOctetsButTime (entry.notice?.bind Notice.diagnostics?)
      (other.notice?.bind Notice.diagnostics?) := by
  cases h with
  | @told notice other alike =>
    cases alike with
    | same =>
      cases notice with
      | diagnostics octets => exact .some (.inl rfl)
      | _ => exact .none
    | stepDone named => exact .none
    | stepFailed named failure => exact .none
    | diagnostics same => exact .some same
  | exchange alike => exact .none

end Entry.Alike

/-- What is picked from entries that are alike is the same. -/
theorem filterMap_eq_of_alike {pick : Entry → Option β} {entries others : List Entry}
    (same : ∀ entry other, Entry.Alike entry other → pick entry = pick other)
    (h : List.Forall₂ Entry.Alike entries others) :
    entries.filterMap pick = others.filterMap pick := by
  induction h with
  | nil => rfl
  | cons alike _ ih => rw [List.filterMap_cons, List.filterMap_cons, same _ _ alike, ih]

end HostProvision
