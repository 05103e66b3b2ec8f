import HostProvision.Proofs.Homebrew.Listing
import HostProvision.Proofs.Provision.Failures
import Mathlib.Data.Set.Insert

/-! # Hosts that keep an inventory

An `Inventory` says which formulas a host has installed and of which there are newer versions.

* `Inventory.Answers` tells which answer to a call agrees with an inventory, and what the inventory
  is after it: only a formula that is installed or upgraded changes anything. `World.Keeps` says it
  of every command of a host.
* **Every run agrees with the inventories**, `World.Keeps.follows`: the calls of a run lead from the
  inventory before it to the one after it.
* **A settled formula stays settled**, `Inventory.Follows.settled`: once it is installed and there
  is no newer version, no call of any kind undoes that. -/

namespace HostProvision

variable {σ α : Type}

/-- A call by which a formula was installed. -/
def Call.Installs (brew : Homebrew) (name : String) (call : Call) : Prop :=
  ∃ mode extraArgs answer,
    call = .command mode (brew.installLine ⟨name, extraArgs⟩) answer ∧ call.Succeeds

/-- A call by which a formula was upgraded. -/
def Call.Upgrades (brew : Homebrew) (name : String) (call : Call) : Prop :=
  ∃ mode extraArgs answer,
    call = .command mode (brew.upgradeLine ⟨name, extraArgs⟩) answer ∧ call.Succeeds

/-- Which formulas a host has installed, and of which there are newer versions. -/
structure Inventory where
  /-- The names of the installed formulas. -/
  installed : Set String
  /-- The names of the formulas of which there are newer versions. -/
  outdated : Set String
  /-- Every installed formula can be listed by its name. -/
  proper : ∀ name ∈ installed, Homebrew.ProperName name

namespace Inventory

/-- A call is answered as an inventory demands, and leaves an inventory. -/
structure Answers (brew : Homebrew) (before : Inventory) (call : Call) (after : Inventory) :
    Prop where
  /-- The listing succeeds, and has the installed formulas one on each line. -/
  list : ∀ answer, call = .command .capture brew.listLine answer →
    ∃ names, answer = .ok ⟨some 0, Homebrew.printed names⟩ ∧
      ∀ name, name ∈ names ↔ name ∈ before.installed
  /-- The check for a newer version succeeds exactly if there is none, whatever it prints. -/
  check : ∀ mode name answer, call = .command mode (brew.outdatedLine name) answer →
    (call.Succeeds ↔ name ∉ before.outdated)
  /-- A formula that was installed is there in its newest version. -/
  install : ∀ name, call.Installs brew name →
    after.installed = insert name before.installed ∧ after.outdated = before.outdated \ {name}
  /-- A formula that was upgraded has its newest version. -/
  upgrade : ∀ name, call.Upgrades brew name →
    after.installed = before.installed ∧ after.outdated = before.outdated \ {name}
  /-- No other call changes anything. -/
  other : (∀ name, ¬call.Installs brew name ∧ ¬call.Upgrades brew name) → after = before

/-- Some calls are answered as an inventory demands, one after another, and leave an inventory. -/
inductive Follows (brew : Homebrew) : Inventory → List Call → Inventory → Prop where
  /-- No call, no change. -/
  | nil (inventory : Inventory) : Follows brew inventory [] inventory
  /-- A call is followed by others. -/
  | cons {before middle after : Inventory} {call : Call} {calls : List Call}
      (answered : before.Answers brew call middle) (rest : Follows brew middle calls after) :
      Follows brew before (call :: calls) after

variable {brew : Homebrew} {before after : Inventory} {call : Call} {calls : List Call}
  {name : String}

/-- No call leaves the inventory as it is. -/
@[simp] theorem follows_nil_iff : Follows brew before [] after ↔ after = before := by
  constructor
  · intro h
    cases h
    rfl
  · rintro rfl
    exact .nil after

/-- Calls are answered if the first one is and the others are after it. -/
theorem follows_cons_iff :
    Follows brew before (call :: calls) after ↔
      ∃ middle, before.Answers brew call middle ∧ Follows brew middle calls after := by
  constructor
  · intro h
    cases h with
    | cons answered rest => exact ⟨_, answered, rest⟩
  · rintro ⟨middle, answered, rest⟩
    exact .cons answered rest

/-- Calls are answered in two parts, with an inventory between them. -/
theorem follows_append_iff {first second : List Call} :
    Follows brew before (first ++ second) after ↔
      ∃ middle, Follows brew before first middle ∧ Follows brew middle second after := by
  induction first generalizing before with
  | nil => simp
  | cons call first ih =>
    simp only [List.cons_append, follows_cons_iff, ih]
    constructor
    · rintro ⟨next, answered, middle, hfirst, hsecond⟩
      exact ⟨middle, ⟨next, answered, hfirst⟩, hsecond⟩
    · rintro ⟨middle, ⟨next, answered, hfirst⟩, hsecond⟩
      exact ⟨next, answered, middle, hfirst, hsecond⟩

/-! ## What a single call preserves -/

namespace Answers

/-- A lookup is answered by every inventory, and leaves it as it is. -/
theorem lookup (brew : Homebrew) (inventory : Inventory) (program : String) (found : Bool) :
    inventory.Answers brew (.lookup program found) inventory where
  list _ same := by cases same
  check _ _ _ same := by cases same
  install _ := fun ⟨_, _, _, same, _⟩ => by cases same
  upgrade _ := fun ⟨_, _, _, same, _⟩ => by cases same
  other _ := rfl

/-- What is in the listing is what is installed. -/
theorem mem_listedNames_iff {listing : Reply}
    (h : before.Answers brew (.command .capture brew.listLine (.ok listing)) after) :
    name ∈ Homebrew.listedNames listing.stdout ↔ name ∈ before.installed := by
  obtain ⟨names, same, enumerated⟩ := h.list _ rfl
  cases same
  have proper : ∀ name ∈ names, Homebrew.ProperName name :=
    fun name mem => before.proper name ((enumerated name).mp mem)
  rw [Homebrew.listedNames_printed proper, enumerated]

/-- An installed formula stays installed. -/
theorem mem_installed (h : before.Answers brew call after) (mem : name ∈ before.installed) :
    name ∈ after.installed := by
  by_cases installs : ∃ other, call.Installs brew other
  · obtain ⟨other, installs⟩ := installs
    rw [(h.install other installs).1]
    exact Set.mem_insert_of_mem other mem
  · by_cases upgrades : ∃ other, call.Upgrades brew other
    · obtain ⟨other, upgrades⟩ := upgrades
      rw [(h.upgrade other upgrades).1]
      exact mem
    · rw [h.other fun other => ⟨fun held => installs ⟨other, held⟩,
        fun held => upgrades ⟨other, held⟩⟩]
      exact mem

/-- A formula in its newest version stays in it. -/
theorem notMem_outdated (h : before.Answers brew call after) (current : name ∉ before.outdated) :
    name ∉ after.outdated := by
  by_cases installs : ∃ other, call.Installs brew other
  · obtain ⟨other, installs⟩ := installs
    rw [(h.install other installs).2]
    exact fun mem => current mem.1
  · by_cases upgrades : ∃ other, call.Upgrades brew other
    · obtain ⟨other, upgrades⟩ := upgrades
      rw [(h.upgrade other upgrades).2]
      exact fun mem => current mem.1
    · rw [h.other fun other => ⟨fun held => installs ⟨other, held⟩,
        fun held => upgrades ⟨other, held⟩⟩]
      exact current

end Answers

/-- A formula needs nothing: it is installed, and there is no newer version. -/
def Settled (inventory : Inventory) (name : String) : Prop :=
  name ∈ inventory.installed ∧ name ∉ inventory.outdated

namespace Answers

/-- A settled formula stays settled in a call. -/
theorem settled (h : before.Answers brew call after) (hsettled : before.Settled name) :
    after.Settled name :=
  ⟨h.mem_installed hsettled.1, h.notMem_outdated hsettled.2⟩

/-- A formula that was installed is settled. -/
theorem settled_of_installs (h : before.Answers brew call after)
    (installs : call.Installs brew name) : after.Settled name := by
  obtain ⟨installed, outdated⟩ := h.install name installs
  rw [Settled, installed, outdated]
  exact ⟨Set.mem_insert name _, fun mem => mem.2 rfl⟩

/-- An installed formula that was upgraded is settled. -/
theorem settled_of_upgrades (h : before.Answers brew call after)
    (upgrades : call.Upgrades brew name) (mem : name ∈ before.installed) :
    after.Settled name := by
  obtain ⟨installed, outdated⟩ := h.upgrade name upgrades
  rw [Settled, installed, outdated]
  exact ⟨mem, fun held => held.2 rfl⟩

end Answers

/-! ## What a run preserves -/

/-- **A settled formula stays settled** whatever is called. -/
theorem Follows.settled (h : Follows brew before calls after) (hsettled : before.Settled name) :
    after.Settled name := by
  induction h with
  | nil inventory => exact hsettled
  | cons answered rest ih => exact ih (answered.settled hsettled)

end Inventory

/-- A host keeps an inventory: it answers every command as the inventory demands, and nothing else
that is asked of it changes the inventory. -/
structure World.Keeps (world : World σ) (brew : Homebrew) (inventory : σ → Inventory) : Prop where
  /-- Every command is answered as the inventory demands. -/
  command : ∀ mode line state, (inventory state).Answers brew
    (.command mode line (world.handle (.command mode line) state).answer)
    (inventory (world.handle (.command mode line) state).state)
  /-- Only commands change the inventory. -/
  other : ∀ request state, (∀ mode line, request ≠ .command mode line) →
    inventory (world.handle request state).state = inventory state

/-- **Every run agrees with the inventories** before and after it. -/
theorem World.Keeps.follows {world : World σ} {brew : Homebrew} {inventory : σ → Inventory}
    (keeps : world.Keeps brew inventory) (procedure : Procedure α) (state : σ) :
    Inventory.Follows brew (inventory state) (world.run procedure state).calls
      (inventory (world.run procedure state).state) := by
  induction procedure generalizing state with
  | done value => exact .nil _
  | notify notice next ih => exact ih state
  | ask request next ih =>
    rw [World.calls_run_ask]
    have rest := ih (world.handle request state).answer (world.handle request state).state
    -- A command is a call that may change the inventory, a lookup is one that does not, and what
    -- else is asked is no call at all.
    cases request with
    | command mode line => exact .cons (keeps.command mode line state) rest
    | lookup program =>
      rw [keeps.other _ state (by simp)] at rest
      exact .cons (.lookup brew (inventory state) program _) rest
    | clock | append _ _ | openLogs _ =>
      rw [keeps.other _ state (by simp)] at rest
      exact rest

/-! ## A host that has nothing but formulas -/

/-- A host that installs and upgrades whatever it is asked for, as long as the name is proper. -/
structure Cellar where
  /-- The installed formulas. -/
  installed : List String
  /-- The formulas of which there are newer versions. -/
  outdated : List String
  /-- Every installed formula can be listed by its name. -/
  proper : ∀ name ∈ installed, Homebrew.ProperName name

namespace Cellar

/-- What is there is the inventory. -/
def inventory (cellar : Cellar) : Inventory where
  installed := { name | name ∈ cellar.installed }
  outdated := { name | name ∈ cellar.outdated }
  proper := cellar.proper

/-- Gets a formula in its newest version. -/
def install (cellar : Cellar) (name : String) (proper : Homebrew.ProperName name) : Cellar where
  installed := name :: cellar.installed
  outdated := cellar.outdated.filter (· ≠ name)
  proper := List.forall_mem_cons.mpr ⟨proper, cellar.proper⟩

/-- Gets the newest version of a formula that is there. -/
def upgrade (cellar : Cellar) (name : String) : Cellar :=
  { cellar with outdated := cellar.outdated.filter (· ≠ name) }

/-- What the formula manager does with its arguments. -/
def answer (cellar : Cellar) : List String → Reply × Cellar
  | ["list", "-1"] => (⟨some 0, Homebrew.printed cellar.installed⟩, cellar)
  | ["outdated", name] => (⟨some (if name ∈ cellar.outdated then 1 else 0), ""⟩, cellar)
  | "install" :: name :: _ =>
    if proper : Homebrew.ProperName name then (.success, cellar.install name proper)
    else (⟨some 1, ""⟩, cellar)
  | "upgrade" :: name :: _ => (.success, cellar.upgrade name)
  | _ => (.success, cellar)

/-- The host as a world. Commands of other tools succeed and do nothing, and no program is found. -/
def world (brew : Homebrew) : World Cellar where
  handle
    | .clock, cellar => ⟨.zero, [], cellar⟩
    | .command _ line, cellar =>
      if line.program = brew.executable then
        let (reply, after) := cellar.answer line.args
        ⟨.ok reply, [], after⟩
      else ⟨.ok .success, [], cellar⟩
    | .lookup _, cellar => ⟨false, [], cellar⟩
    | .append .., cellar => ⟨.error .notOffered, [], cellar⟩
    | .openLogs _, cellar => ⟨.noDirectory .notOffered, [], cellar⟩

/-- A command of the formula manager is answered by its arguments. -/
theorem handle_line (brew : Homebrew) (mode : Mode) (args : List String) (cellar : Cellar) :
    (world brew).handle (.command mode (brew.line args)) cellar =
      ⟨.ok (cellar.answer args).1, [], (cellar.answer args).2⟩ := by
  simp [world, Homebrew.line]

/-- A proper formula that is asked for is installed. -/
theorem answer_install {cellar : Cellar} {name : String} {rest : List String}
    (proper : Homebrew.ProperName name) :
    cellar.answer ("install" :: name :: rest) = (.success, cellar.install name proper) :=
  dif_pos proper

/-- A formula that is not proper is refused. -/
theorem answer_install_of_not_proper {cellar : Cellar} {name : String} {rest : List String}
    (improper : ¬Homebrew.ProperName name) :
    cellar.answer ("install" :: name :: rest) = (⟨some 1, ""⟩, cellar) :=
  dif_neg improper

/-- Arguments that neither install nor upgrade anything leave everything as it is. -/
theorem answer_snd_of_other {args : List String} (cellar : Cellar)
    (installs : ∀ name rest, args = "install" :: name :: rest → ¬Homebrew.ProperName name)
    (upgrades : ∀ name rest, args ≠ "upgrade" :: name :: rest) :
    (cellar.answer args).2 = cellar := by
  fun_cases answer cellar args with
  | case1 => rfl
  | case2 => rfl
  | case3 name rest proper => exact absurd proper (installs name rest rfl)
  | case4 => rfl
  | case5 name rest => exact absurd rfl (upgrades name rest)
  | case6 => rfl

/-- Filtering a name out of a list takes it out of the set. -/
theorem setOf_mem_filter_ne (names : List String) (name : String) :
    { other | other ∈ names.filter (· ≠ name) } = { other | other ∈ names } \ {name} := by
  ext other
  simp

/-- **The host keeps its inventory.** -/
theorem keeps (brew : Homebrew) : (world brew).Keeps brew inventory where
  command mode line cellar :=
    { list := by
        intro answer same
        cases same
        rw [Homebrew.listLine, handle_line]
        exact ⟨cellar.installed, rfl, fun _ => Iff.rfl⟩
      check := by
        intro mode name answer same
        cases same
        rw [Homebrew.outdatedLine, handle_line, Call.succeeds_command_ok]
        by_cases newer : name ∈ cellar.outdated
        · simp [answer, inventory, newer, Reply.succeeded]
        · simp [answer, inventory, newer, Reply.succeeded]
      install := by
        rintro name ⟨mode, rest, answer, same, succeeded⟩
        cases same
        rw [Homebrew.installLine, handle_line] at succeeded ⊢
        by_cases proper : Homebrew.ProperName name
        · rw [Formula.installArgs, answer_install proper]
          exact ⟨Set.ext fun _ => List.mem_cons, setOf_mem_filter_ne cellar.outdated name⟩
        · rw [Formula.installArgs, answer_install_of_not_proper proper,
            Call.succeeds_command_ok] at succeeded
          cases succeeded
      upgrade := by
        rintro name ⟨mode, rest, answer, same, -⟩
        cases same
        rw [Homebrew.upgradeLine, handle_line]
        exact ⟨rfl, setOf_mem_filter_ne cellar.outdated name⟩
      other := by
        intro neither
        by_cases managed : line.program = brew.executable
        · obtain ⟨args, rfl⟩ : ∃ args, line = brew.line args :=
            ⟨line.args, CommandLine.ext managed rfl⟩
          rw [handle_line] at neither ⊢
          refine congrArg inventory (answer_snd_of_other cellar ?_ ?_)
          · rintro name rest rfl proper
            rw [answer_install proper] at neither
            exact (neither name).1 ⟨mode, rest, _, rfl, Call.succeeds_command_ok.mpr rfl⟩
          · rintro name rest rfl
            exact (neither name).2 ⟨mode, rest, _, rfl, Call.succeeds_command_ok.mpr rfl⟩
        · simp [world, managed] }
  other request cellar silent := by
    cases request with
    | command mode line => exact absurd rfl (silent mode line)
    | _ => rfl

end Cellar

end HostProvision
