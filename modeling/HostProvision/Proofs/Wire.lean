import HostProvision.Proofs.Json.Forms
import HostProvision.Proofs.Text.Utf8
import HostProvision.Wire

/-! # Stored values survive

What is stored of a value is enough to have it back, however long its lists are and whatever
characters are in its texts.

* `Stored.Faithful` says of a value that it has a stored form, which stands for it and can be
  written; lists and records are faithful if their parts are.
* **The data model survives**, `Stored.parse?_print_dataModel`: what is printed for a value is
  parsed as that value, for each of its types, and only a directory that is no text keeps a value
  from being printed. -/

namespace HostProvision

open Json

namespace Stored

variable {α β γ : Type} [Stored α] [Stored β] [Stored γ]

/-- A value that has a stored form, which is written with spelled numbers only and stands for it. -/
def Faithful (value : α) : Prop :=
  ∃ whole : Value, whole.IsSpelled ∧ restore? whole = some value ∧ store? value = some whole

/-- **A faithful value survives** being printed and parsed. -/
theorem Faithful.parse?_print {value : α} (h : Faithful value) :
    (print? value).bind parse? = some value := by
  obtain ⟨whole, spelled, restored, stored⟩ := h
  rw [print?, stored, Option.map_some, Option.bind_some, parse?, Value.parse?_render spelled,
    Option.bind_some, restored]

/-- Texts are faithful. -/
theorem faithful_text (text : String) : Faithful text :=
  ⟨Value.ofText text, Value.isSpelled_ofText text, Value.text?_ofText text, rfl⟩

/-- A list is faithful if its items are. -/
theorem faithful_list {values : List α} (h : ∀ value ∈ values, Faithful value) :
    Faithful values := by
  obtain ⟨items, related⟩ := Value.exists_forall₂_iff.mpr h
  obtain ⟨spelled, related⟩ := (List.forall₂_and_left _ _).mp related
  have restored : items.mapM restore? = some values :=
    Value.mapM_eq_some_iff.mpr (related.imp fun _ _ h => h.1)
  have stored : values.mapM store? = some items :=
    Value.mapM_eq_some_iff.mpr (related.imp fun _ _ h => h.2).flip
  exact ⟨.array items, Value.isSpelled_array spelled, restored,
    congrArg (Option.map Value.array) stored⟩

/-- Lists of texts are faithful. -/
theorem faithful_texts (texts : List String) : Faithful texts :=
  faithful_list fun text _ => faithful_text text

/-! ### Enumerations -/

/-- A compiler is faithful. -/
theorem faithful_compiler (compiler : Compiler) : Faithful compiler :=
  ⟨_, Value.isSpelled_ofText compiler.tag, Compiler.ofTag?_tag compiler, rfl⟩

/-- The result of a check is faithful. -/
theorem faithful_outdatedStatus (status : OutdatedStatus) : Faithful status :=
  ⟨_, Value.isSpelled_ofText status.tag, OutdatedStatus.ofTag?_tag status, rfl⟩

/-- What was done about a formula is faithful. -/
theorem faithful_ensureOutcome (outcome : EnsureOutcome) : Faithful outcome :=
  ⟨_, Value.isSpelled_ofText outcome.tag, EnsureOutcome.ofTag?_tag outcome, rfl⟩

/-! ### Records -/

/-- A record is faithful if its fields are restored to it, as soon as they are found under their
names. -/
theorem faithful_record {value : α} (fields : List (String × Value))
    (nodup : (fields.map Prod.fst).Nodup) (spelled : ∀ field ∈ fields, field.2.IsSpelled)
    (stored : store? value = some (Value.ofFields fields))
    (restored : ∀ whole : Value,
      whole.fields? (fields.map Prod.fst) = some (fields.map Prod.snd) →
        restore? whole = some value) : Faithful value :=
  ⟨Value.ofFields fields, Value.isSpelled_ofFields spelled,
    restored _ (Value.fields?_ofFields nodup), stored⟩

/-- How a record of two fields is read. -/
def readPair (make : β → γ → α) : List Value → Option α
  | [first, second] => do return make (← restore? first) (← restore? second)
  | _ => none

/-- How a record of two fields is written. -/
def writePair (first second : String) (one : β) (two : γ) : Option Value := do
  let one ← store? one
  let two ← store? two
  return Value.ofFields [(first, one), (second, two)]

/-- **A record of two fields** is faithful if both of them are. -/
theorem faithful_pair (first second : String) (make : β → γ → α) {one : β} {two : γ}
    (distinct : first ≠ second) (stored : store? (make one two) = writePair first second one two)
    (restored : ∀ whole : Value,
      restore? whole = (whole.fields? [first, second]).bind (readPair make))
    (h : Faithful one) (h' : Faithful two) : Faithful (make one two) := by
  obtain ⟨item, spelled, restored₁, stored₁⟩ := h
  obtain ⟨item', spelled', restored₂, stored₂⟩ := h'
  refine faithful_record [(first, item), (second, item')] ?_ ?_ ?_ fun whole found => ?_
  · simp [distinct]
  · simp [spelled, spelled']
  · rw [stored, writePair, stored₁, stored₂]
    rfl
  · have pair : readPair make [item, item'] = some (make one two) := by
      simp [readPair, restored₁, restored₂]
    rw [restored]
    exact (congrArg (Option.bind · (readPair make)) found).trans pair

/-- A formula is faithful. -/
theorem faithful_formula (formula : Formula) : Faithful formula :=
  faithful_pair "name" "extra_args" Formula.mk (by decide) rfl (fun _ => rfl)
    (faithful_text formula.name) (faithful_texts formula.extraArgs)

/-- A command line is faithful. -/
theorem faithful_commandLine (line : CommandLine) : Faithful line :=
  faithful_pair "program" "args" CommandLine.mk (by decide) rfl (fun _ => rfl)
    (faithful_text line.program) (faithful_texts line.args)

/-- An elapsed time is faithful. -/
theorem faithful_elapsed (elapsed : Elapsed) : Faithful elapsed := by
  let parts := [("secs", Value.ofNat elapsed.secs), ("nanos", Value.ofNat elapsed.nanos)]
  have fields : (Value.ofFields parts).exactFields? Elapsed.fieldNames =
      some [Value.ofNat elapsed.secs, Value.ofNat elapsed.nanos] :=
    Value.exactFields?_ofFields (by simp [parts])
  have secs : (Value.ofNat elapsed.secs).bounded? UInt64.size = some elapsed.secs := by
    simp [Value.bounded?, elapsed.secs_lt]
  have nanos : (Value.ofNat elapsed.nanos).bounded? UInt32.size = some elapsed.nanos := by
    have fits : elapsed.nanos < UInt32.size := Nat.lt_trans elapsed.nanos_lt (by decide)
    simp [Value.bounded?, fits]
  refine ⟨Value.ofFields parts, Value.isSpelled_ofFields (by simp [parts]), ?_, rfl⟩
  refine Option.bind_eq_some_iff.mpr ⟨_, fields, ?_⟩
  show ((Value.ofNat elapsed.secs).bounded? UInt64.size).bind _ = _
  refine Option.bind_eq_some_iff.mpr ⟨_, secs, Option.bind_eq_some_iff.mpr ⟨_, nanos, ?_⟩⟩
  exact Elapsed.ofParts?_secs_nanos elapsed

/-- The record of a step is faithful. -/
theorem faithful_stepRecord (record : StepRecord) : Faithful record :=
  faithful_pair "name" "elapsed" StepRecord.mk (by decide) rfl (fun _ => rfl)
    (faithful_text record.name) (faithful_elapsed record.elapsed)

/-- An update whose directory is a text is stored as that text. -/
theorem store?_pathUpdate {update : PathUpdate} {text : String}
    (decoded : Utf8.decode? update.directory = some text) :
    store? update = some (Value.ofFields [("dir", Value.ofText text)]) := by
  show (Utf8.decode? update.directory >>= _) = _
  rw [decoded]
  rfl

/-- An update cannot be stored exactly if its directory is no text. -/
theorem store?_pathUpdate_eq_none_iff {update : PathUpdate} :
    store? update = none ↔ Utf8.decode? update.directory = none := by
  cases decoded : Utf8.decode? update.directory with
  | none =>
    refine iff_of_true ?_ rfl
    show (Utf8.decode? update.directory >>= _) = _
    rw [decoded]
    rfl
  | some text =>
    rw [store?_pathUpdate decoded]
    exact iff_of_false (Option.some_ne_none _) (Option.some_ne_none text)

/-- An update is faithful if its directory is a text. -/
theorem faithful_pathUpdate (text : String) : Faithful (⟨Utf8.encode text⟩ : PathUpdate) := by
  refine faithful_record [("dir", Value.ofText text)] (by simp) (by simp)
    (store?_pathUpdate (Utf8.decode?_encode text)) fun whole found => ?_
  show (whole.fields? PathUpdate.fieldNames >>= _) = _
  exact (congrArg (· >>= _) found).trans rfl

/-- The records of steps are faithful, in a list of any length. -/
theorem faithful_steps (steps : List StepRecord) : Faithful steps :=
  faithful_list fun record _ => faithful_stepRecord record

/-- A report is faithful if its directory is a text. -/
theorem faithful_report (steps : List StepRecord) (text : String) :
    Faithful (⟨steps, ⟨Utf8.encode text⟩⟩ : Report) :=
  faithful_pair "steps" "path_update" Report.mk (by decide) rfl (fun _ => rfl)
    (faithful_steps steps) (faithful_pathUpdate text)

/-- A report cannot be stored exactly if its directory is no text. -/
theorem store?_report_eq_none_iff {report : Report} :
    store? report = none ↔ Utf8.decode? report.pathUpdate.directory = none := by
  obtain ⟨item, -, -, stored⟩ := faithful_steps report.steps
  rw [← store?_pathUpdate_eq_none_iff]
  show writePair "steps" "path_update" report.steps report.pathUpdate = none ↔ _
  rw [writePair, stored]
  cases store? report.pathUpdate with
  | none => exact iff_of_true rfl rfl
  | some other => exact iff_of_false nofun nofun

/-- **The data model survives.** What is printed for a value of any type of the data model is parsed
as that value: compilers, the results of checks and of ensuring a formula, formulas, command lines
and step records with any texts and any elapsed time, and updates and reports whose directory is
well-formed UTF-8. An update or a report with any other directory is not printed. -/
theorem parse?_print_dataModel :
    (∀ compiler : Compiler, (print? compiler).bind parse? = some compiler) ∧
      (∀ status : OutdatedStatus, (print? status).bind parse? = some status) ∧
      (∀ outcome : EnsureOutcome, (print? outcome).bind parse? = some outcome) ∧
      (∀ formula : Formula, (print? formula).bind parse? = some formula) ∧
      (∀ line : CommandLine, (print? line).bind parse? = some line) ∧
      (∀ record : StepRecord, (print? record).bind parse? = some record) ∧
      (∀ text : String, let update : PathUpdate := ⟨Utf8.encode text⟩
        (print? update).bind parse? = some update) ∧
      (∀ (steps : List StepRecord) (text : String),
        let report : Report := ⟨steps, ⟨Utf8.encode text⟩⟩
        (print? report).bind parse? = some report) ∧
      (∀ update : PathUpdate,
        print? update = none ↔ Utf8.decode? update.directory = none) ∧
      ∀ report : Report,
        print? report = none ↔ Utf8.decode? report.pathUpdate.directory = none :=
  ⟨fun compiler => (faithful_compiler compiler).parse?_print,
    fun status => (faithful_outdatedStatus status).parse?_print,
    fun outcome => (faithful_ensureOutcome outcome).parse?_print,
    fun formula => (faithful_formula formula).parse?_print,
    fun line => (faithful_commandLine line).parse?_print,
    fun record => (faithful_stepRecord record).parse?_print,
    fun text => (faithful_pathUpdate text).parse?_print,
    fun steps text => (faithful_report steps text).parse?_print,
    fun _ => Option.map_eq_none_iff.trans store?_pathUpdate_eq_none_iff,
    fun _ => Option.map_eq_none_iff.trans store?_report_eq_none_iff⟩

example : print? (⟨"a\"b\\\n\x1f😀", ["-O"]⟩ : Formula) =
    some "\x7b\"name\":\"a\\\"b\\\\\\n\\u001f😀\",\"extra_args\":[\"-O\"]\x7d" := by
  decide +kernel

end Stored

end HostProvision
