import HostProvision.Proofs.Cli.Selection

/-! # Asking for more log messages

The option that asks for more log messages is counted, wherever it stands, and nothing that is read
after it depends on the count.

* `Reading.SameButVerbosity` relates what has been read with and without the option, and
  `Reading.follows_read` is the step over one argument.
* **Nothing else is asked for**, `interpret_verbose`: a command line that can be used asks for the
  same command with the same log directory, however often the option is put in front of it. -/

namespace HostProvision

namespace Cli

namespace Reading

/-- Readings that differ at most in how often more log messages were asked for, and so in what was
given. -/
def SameButVerbosity (reading other : Reading) : Prop :=
  ∃ verbosity given, other = { reading with verbosity, given }

namespace SameButVerbosity

variable {reading other : Reading} (same : reading.SameButVerbosity other)

include same

theorem command_eq : other.command = reading.command := by
  obtain ⟨verbosity, given, rfl⟩ := same
  rfl

theorem pending_eq : other.pending = reading.pending := by
  obtain ⟨verbosity, given, rfl⟩ := same
  rfl

theorem onlyPositional_eq : other.onlyPositional = reading.onlyPositional := by
  obtain ⟨verbosity, given, rfl⟩ := same
  rfl

theorem name_eq : other.name = reading.name := by
  obtain ⟨verbosity, given, rfl⟩ := same
  rfl

end SameButVerbosity

/-- If the first of two readings goes on, the second does so in the same way. -/
def Follows (result other : Except Interruption Reading) : Prop :=
  ∀ next, result = .ok next → ∃ later, other = .ok later ∧ next.SameButVerbosity later

theorem follows_ok {reading other : Reading} (same : reading.SameButVerbosity other) :
    Follows (.ok reading) (.ok other) := by
  rintro next ⟨⟩
  exact ⟨other, rfl, same⟩

theorem follows_error (interruption : Interruption) (other : Except Interruption Reading) :
    Follows (.error interruption) other :=
  nofun

/-- What is read in two parts goes on in the same way if both parts do. -/
theorem Follows.bind {result other : Except Interruption Reading} (h : Follows result other)
    {next next' : Reading → Except Interruption Reading}
    (hnext : ∀ reading another, reading.SameButVerbosity another →
      Follows (next reading) (next' another)) :
    Follows (result >>= next) (other >>= next') := by
  cases result with
  | error interruption => exact follows_error interruption _
  | ok reading =>
    obtain ⟨another, rfl, same⟩ := h reading rfl
    exact hnext reading another same

variable {reading other : Reading} (same : reading.SameButVerbosity other)

include same

/-- A value takes effect in the same way. -/
theorem follows_setValue (option : OptionName) (value : String) :
    Follows (reading.setValue option value) (other.setValue option value) := by
  obtain ⟨verbosity, given, rfl⟩ := same
  rw [setValue, setValue]
  split_ifs
  · exact follows_error _ _
  · exact follows_error _ _
  · exact follows_ok ⟨_, _, rfl⟩

/-- So does the pending option. -/
theorem follows_settle : Follows reading.settle other.settle := by
  obtain ⟨verbosity, given, rfl⟩ := same
  obtain ⟨command, _, flags, values, pending, onlyPositional, name, extra, _⟩ := reading
  match pending with
  | none => exact follows_ok ⟨_, _, rfl⟩
  | some (option, none) => exact follows_error _ _
  | some (option, some value) => exact follows_setValue ⟨_, _, rfl⟩ option value

/-- So does a flag. -/
theorem follows_setFlag (option : OptionName) :
    Follows (reading.setFlag option) (other.setFlag option) := by
  refine (follows_settle same).bind fun reading another same => ?_
  obtain ⟨verbosity, given, rfl⟩ := same
  cases option with
  | help | version => exact follows_error _ _
  | verbose => exact follows_ok ⟨_, _, rfl⟩
  | _ =>
    dsimp only
    split_ifs
    · exact follows_error _ _
    · exact follows_ok ⟨_, _, rfl⟩

theorem follows_readLong (spelling : String) (attached : Option String) (rest : List String) :
    Follows (reading.readLong spelling attached rest) (other.readLong spelling attached rest) := by
  obtain ⟨verbosity, given, rfl⟩ := same
  rw [readLong, readLong]
  cases longOption? reading.command spelling with
  | none => exact follows_error _ _
  | some option =>
    dsimp only
    by_cases takes : option.takesValue
    · rw [if_pos takes, if_pos takes]
      refine (follows_settle ⟨_, _, rfl⟩).bind fun reading another same => ?_
      cases attached with
      | some value => exact follows_setValue same option value
      | none =>
        obtain ⟨verbosity, given, rfl⟩ := same
        exact follows_ok ⟨_, _, rfl⟩
    · rw [if_neg takes, if_neg takes]
      cases attached with
      | some value => exact follows_error _ _
      | none => exact follows_setFlag ⟨_, _, rfl⟩ option

theorem follows_readShort (letters : List Char) :
    Follows (reading.readShort letters) (other.readShort letters) := by
  induction letters generalizing reading other with
  | nil => exact follows_ok same
  | cons letter rest ih =>
    rw [readShort, readShort, same.command_eq]
    cases shortOption? reading.command letter with
    | none => exact follows_error _ _
    | some option => exact (follows_setFlag same option).bind fun _ _ => ih

theorem follows_readPositional (text : String) :
    Follows (reading.readPositional text) (other.readPositional text) := by
  rw [readPositional, readPositional, same.command_eq, same.onlyPositional_eq, same.name_eq]
  match reading.command with
  | none | some .run | some .compilers => exact follows_error _ _
  | some .ensure =>
    dsimp only
    split_ifs
    · refine (follows_settle same).bind fun reading another same => ?_
      obtain ⟨verbosity, given, rfl⟩ := same
      exact follows_ok ⟨_, _, rfl⟩
    · exact follows_error _ _
    · refine (follows_settle same).bind fun reading another same => ?_
      obtain ⟨verbosity, given, rfl⟩ := same
      exact follows_ok ⟨_, _, rfl⟩

/-- One argument is read in the same way. -/
theorem follows_read (text : String) (rest : List String) :
    Follows (reading.read text rest) (other.read text rest) := by
  rw [Reading.read, Reading.read, same.onlyPositional_eq, same.pending_eq]
  split_ifs
  · exact follows_readPositional same text
  · split
    · obtain ⟨verbosity, given, rfl⟩ := same
      exact follows_ok ⟨_, _, rfl⟩
    · exact follows_readLong same _ _ rest
    · exact follows_readShort same _
    · split
      · obtain ⟨verbosity, given, rfl⟩ := same
        exact follows_ok ⟨_, _, rfl⟩
      · exact follows_readPositional same text

end Reading

/-- Arguments ask for the same from readings that differ in how often more log messages were asked
for. -/
theorem interpretFrom_of_same {held : Option Bytes} {args : List String} {reading other : Reading}
    (same : reading.SameButVerbosity other) {globals : GlobalOptions} {task : Task}
    (read : interpretFrom held reading args = .ok ⟨globals, task⟩) :
    ∃ verbosity, interpretFrom held other args =
      .ok ⟨{ globals with verbosity }, task⟩ := by
  induction args generalizing reading other with
  | nil =>
    obtain ⟨settled, -, thrown⟩ := exists_of_bind_eq_ok read
    cases thrown
  | cons text rest ih =>
    have awaits : other.awaitsValue = reading.awaitsValue := by
      rw [Reading.awaitsValue, Reading.awaitsValue, same.pending_eq]
    rw [interpretFrom] at read ⊢
    simp only [awaits, same.onlyPositional_eq] at read ⊢
    by_cases help : (!reading.onlyPositional && !reading.awaitsValue) = true ∧ text = "help"
    · rw [if_pos help] at read
      cases read
    rw [if_neg help] at read ⊢
    cases named : if (!reading.onlyPositional && !reading.awaitsValue) = true then
        CommandName.ofSpelling? text else none with
    | some command =>
      rw [named] at read
      obtain ⟨after, hafter, read⟩ := exists_of_bind_eq_ok read
      obtain ⟨asked, htask, read⟩ := exists_of_bind_eq_ok read
      obtain ⟨before, hbefore, done⟩ := exists_of_bind_eq_ok read
      obtain ⟨later, hlater, verbosity, given, rfl⟩ := Reading.follows_settle same before hbefore
      cases done
      refine ⟨if after.verbosity = 0 then verbosity else after.verbosity, ?_⟩
      simp only [hafter, htask, hlater, bind, Except.bind]
      rfl
    | none =>
      rw [named] at read
      obtain ⟨next, hnext, read⟩ := exists_of_bind_eq_ok read
      obtain ⟨later, hlater, same⟩ := Reading.follows_read same text rest next hnext
      obtain ⟨verbosity, read⟩ := ih same read
      refine ⟨verbosity, ?_⟩
      simp only [hlater, bind, Except.bind]
      exact read

/-- Asking for more log messages is noted before the rest is read. -/
theorem interpret_cons_verbose (held : Option Bytes) (args : List String) :
    interpret held ("-v" :: args) =
      interpretFrom held { verbosity := 1, given := [.option .verbose] } args :=
  rfl

/-- **Asking for more log messages** in front of a command line changes nothing else that it asks
for, however often that is done. -/
theorem interpret_verbose {held : Option Bytes} {args : List String} {globals : GlobalOptions}
    {task : Task} (read : interpret held args = .ok ⟨globals, task⟩) (times : Nat) :
    ∃ verbosity, interpret held (List.replicate times "-v" ++ args) =
      .ok ⟨{ globals with verbosity }, task⟩ := by
  induction times with
  | zero => exact ⟨globals.verbosity, read⟩
  | succ times ih =>
    obtain ⟨verbosity, read⟩ := ih
    rw [List.replicate_succ, List.cons_append, interpret_cons_verbose]
    exact interpretFrom_of_same ⟨1, [.option .verbose], rfl⟩ read

end Cli

end HostProvision
