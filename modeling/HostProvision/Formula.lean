/-! # Formulas to ensure

A request names a formula and the flags that apply only when it is installed or upgraded. -/

namespace HostProvision

/-- A formula to ensure, with the flags for installing and upgrading it. -/
@[ext] structure Formula where
  /-- The name of the formula. -/
  name : String
  /-- The flags that follow the name when the formula is installed or upgraded. -/
  extraArgs : List String := []
  deriving DecidableEq, Repr, Inhabited

namespace Formula

/-- The arguments that install or upgrade a formula: its name and then its flags. -/
def installArgs (formula : Formula) : List String :=
  formula.name :: formula.extraArgs

/-- A formula without flags is installed by its name alone. -/
@[simp] theorem installArgs_mk_nil (name : String) : installArgs ⟨name, []⟩ = [name] :=
  rfl

/-- The arguments of an installation determine the request. -/
theorem installArgs_inj {first second : Formula} :
    first.installArgs = second.installArgs ↔ first = second := by
  constructor
  · intro same
    exact Formula.ext (List.cons.inj same).1 (List.cons.inj same).2
  · intro same
    rw [same]

end Formula

end HostProvision
