import HostProvision.CommandLine
import HostProvision.Compiler
import HostProvision.Json.Record
import HostProvision.Report

/-! # Stored forms of the data model

Each type of the data model has a form as a JSON value: `store?` writes it and `restore?` reads it
back. Enumerations are stored as their tags, elapsed times by their two parts, and all other types
as records in declaration order. `Stored.print?` and `Stored.parse?` are the same on texts. A
directory is stored as a text, so one that is not well-formed UTF-8 cannot be stored. -/

namespace HostProvision

open Json

/-- A type whose values can be stored as JSON. -/
class Stored (α : Type) where
  /-- The stored form of a value, if it has one. -/
  store? : α → Option Value
  /-- The value that a stored form stands for. -/
  restore? : Value → Option α

namespace Stored

/-- The stored form of a value, as a text. -/
def print? {α : Type} [Stored α] (value : α) : Option String :=
  (store? value).map Value.render

/-- The value that a stored text stands for. -/
def parse? {α : Type} [Stored α] (text : String) : Option α :=
  (Value.parse? text).bind restore?

end Stored

instance : Stored String where
  store? text := some (Value.ofText text)
  restore? := Value.text?

instance {α : Type} [Stored α] : Stored (List α) where
  store? values := (values.mapM Stored.store?).map .array
  restore? := Value.list? Stored.restore?

instance : Stored Compiler where
  store? compiler := some (Value.ofText compiler.tag)
  restore? value := value.case?.bind Compiler.ofTag?

instance : Stored OutdatedStatus where
  store? status := some (Value.ofText status.tag)
  restore? value := value.case?.bind OutdatedStatus.ofTag?

instance : Stored EnsureOutcome where
  store? outcome := some (Value.ofText outcome.tag)
  restore? value := value.case?.bind EnsureOutcome.ofTag?

/-- The names of the stored fields of a formula. -/
def Formula.fieldNames : List String := ["name", "extra_args"]

instance : Stored Formula where
  store? formula := do
    let name ← Stored.store? formula.name
    let extraArgs ← Stored.store? formula.extraArgs
    return Value.ofFields [("name", name), ("extra_args", extraArgs)]
  restore? value := do
    let [name, extraArgs] ← value.fields? Formula.fieldNames | none
    return ⟨← Stored.restore? name, ← Stored.restore? extraArgs⟩

/-- The names of the stored fields of a command line. -/
def CommandLine.fieldNames : List String := ["program", "args"]

instance : Stored CommandLine where
  store? line := do
    let program ← Stored.store? line.program
    let args ← Stored.store? line.args
    return Value.ofFields [("program", program), ("args", args)]
  restore? value := do
    let [program, args] ← value.fields? CommandLine.fieldNames | none
    return ⟨← Stored.restore? program, ← Stored.restore? args⟩

/-- The names of the stored fields of an update. -/
def PathUpdate.fieldNames : List String := ["dir"]

instance : Stored PathUpdate where
  store? update := do
    let directory ← Utf8.decode? update.directory
    return Value.ofFields [("dir", Value.ofText directory)]
  restore? value := do
    let [directory] ← value.fields? PathUpdate.fieldNames | none
    return ⟨Utf8.encode (← directory.text?)⟩

/-- The names of the stored parts of an elapsed time. -/
def Elapsed.fieldNames : List String := ["secs", "nanos"]

/-- A stored number below a bound. -/
def Json.Value.bounded? (bound : Nat) (value : Value) : Option Nat :=
  value.nat?.filter (· < bound)

instance : Stored Elapsed where
  store? elapsed :=
    some (Value.ofFields
      [("secs", Value.ofNat elapsed.secs), ("nanos", Value.ofNat elapsed.nanos)])
  restore? value := do
    let [secs, nanos] ← value.exactFields? Elapsed.fieldNames | none
    Elapsed.ofParts? (← secs.bounded? UInt64.size) (← nanos.bounded? UInt32.size)

/-- The names of the stored fields of a step. -/
def StepRecord.fieldNames : List String := ["name", "elapsed"]

instance : Stored StepRecord where
  store? record := do
    let name ← Stored.store? record.name
    let elapsed ← Stored.store? record.elapsed
    return Value.ofFields [("name", name), ("elapsed", elapsed)]
  restore? value := do
    let [name, elapsed] ← value.fields? StepRecord.fieldNames | none
    return ⟨← Stored.restore? name, ← Stored.restore? elapsed⟩

/-- The names of the stored fields of a report. -/
def Report.fieldNames : List String := ["steps", "path_update"]

instance : Stored Report where
  store? report := do
    let steps ← Stored.store? report.steps
    let pathUpdate ← Stored.store? report.pathUpdate
    return Value.ofFields [("steps", steps), ("path_update", pathUpdate)]
  restore? value := do
    let [steps, pathUpdate] ← value.fields? Report.fieldNames | none
    return ⟨← Stored.restore? steps, ← Stored.restore? pathUpdate⟩

end HostProvision
