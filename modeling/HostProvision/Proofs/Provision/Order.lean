import HostProvision.Proofs.Provision.Phase

/-! # The order of a provisioning run

A run consists of legs, one for each phase that is reached: `Plan.legs_of_provision_eq_ok` takes a
run that succeeds apart, and `Plan.legs_of_provision_eq_error` one that fails.

* **The order of a whole run**, `Plan.calls_provision`, holds on every host and for every plan: the
  calls are those of the legs one after another, the legs follow the phases of the plan, and only
  the last of them can fail. -/

namespace HostProvision

variable {σ : Type}

/-- A phase as it was carried out in a run. -/
structure Leg where
  /-- The phase. -/
  phase : Phase
  /-- What was called, with the answers. -/
  calls : List Call
  /-- The failure in which it ended, if any. -/
  failure : Option Failure

namespace Leg

/-- What was called, and the failure, are those of the phase. -/
def Occurs (tooling : Tooling) (leg : Leg) : Prop :=
  leg.phase.Makes tooling leg.calls leg.failure

end Leg

namespace Phase.CarriedOut

variable {tooling : Tooling} {phases : List Phase} {calls : List Call} {failure : Failure}

/-- Phases of which none failed make one leg each. -/
theorem exists_legs_of_done (h : CarriedOut tooling phases calls none) :
    ∃ legs : List Leg, phases = legs.map Leg.phase ∧
      (∀ leg ∈ legs, leg.Occurs tooling ∧ leg.failure = none) ∧
      calls = legs.flatMap Leg.calls := by
  generalize succeeded : (none : Option Failure) = ending at h
  induction h with
  | finished => exact ⟨[], rfl, by simp, rfl⟩
  | @continued phase _ first _ _ done _ ih =>
    obtain ⟨legs, rfl, hlegs, rfl⟩ := ih succeeded
    exact ⟨⟨phase, first, none⟩ :: legs, rfl,
      List.forall_mem_cons.mpr ⟨⟨done, succeeded⟩, hlegs⟩, rfl⟩
  | stopped failed => cases succeeded

/-- Phases of which one failed make one leg each up to that one. -/
theorem exists_legs_of_stopped (h : CarriedOut tooling phases calls (some failure)) :
    ∃ (done : List Leg) (last : Leg) (skipped : List Phase),
      phases = done.map Leg.phase ++ last.phase :: skipped ∧
      (∀ leg ∈ done, leg.Occurs tooling ∧ leg.failure = none) ∧
      last.Occurs tooling ∧ last.failure = some failure ∧
      calls = done.flatMap Leg.calls ++ last.calls := by
  generalize stopped : some failure = ending at h
  induction h with
  | finished => cases stopped
  | @continued phase _ first _ _ hphase _ ih =>
    obtain ⟨done, last, skipped, rfl, hdone, occurs, hfailure, rfl⟩ := ih stopped
    exact ⟨⟨phase, first, none⟩ :: done, last, skipped, rfl,
      List.forall_mem_cons.mpr ⟨⟨hphase, rfl⟩, hdone⟩, occurs, hfailure,
      (List.append_assoc ..).symm⟩
  | @stopped phase phases calls failure failed =>
    exact ⟨[], ⟨phase, calls, some failure⟩, phases, rfl, by simp, failed, rfl, rfl⟩

/-- Phases make one leg each, as far as they are reached. -/
theorem exists_legs {ending : Option Failure} (h : CarriedOut tooling phases calls ending) :
    ∃ (legs : List Leg) (skipped : List Phase), phases = legs.map Leg.phase ++ skipped ∧
      (∀ leg ∈ legs, leg.Occurs tooling) ∧ calls = legs.flatMap Leg.calls := by
  cases ending with
  | none =>
    obtain ⟨legs, rfl, hlegs, rfl⟩ := h.exists_legs_of_done
    exact ⟨legs, [], (List.append_nil _).symm, fun leg mem => (hlegs leg mem).1, rfl⟩
  | some failure =>
    obtain ⟨done, last, skipped, rfl, hdone, occurs, -, rfl⟩ := h.exists_legs_of_stopped
    refine ⟨done ++ [last], skipped, by simp, fun leg mem => ?_, by simp⟩
    rcases List.mem_append.mp mem with mem | mem
    · exact (hdone leg mem).1
    · rw [List.mem_singleton.mp mem]
      exact occurs

end Phase.CarriedOut

namespace Plan

/-- Whoever carries all phases of a plan out looks the build system up. -/
theorem lookup_mem_of_legs {plan : Plan} {tooling : Tooling} {found : Bool} {legs : List Leg}
    (hphases : plan.phases found = legs.map Leg.phase)
    (hlegs : ∀ leg ∈ legs, leg.Occurs tooling ∧ leg.failure = none) :
    .lookup plan.buildSystem.name found ∈ legs.flatMap Leg.calls := by
  have reached : .lookup plan.buildSystem.name found ∈ legs.map Leg.phase := by
    rw [← hphases]
    simp [phases]
  obtain ⟨⟨phase, calls, failure⟩, hleg, rfl⟩ := List.mem_map.mp reached
  obtain ⟨⟨rfl, -⟩, -⟩ := hlegs _ hleg
  exact List.mem_flatMap.mpr ⟨_, hleg, List.mem_singleton_self _⟩

/-- A run that succeeds consists of one leg for each phase of the plan, of which none fails. -/
theorem legs_of_provision_eq_ok (world : World σ) (state : σ) (tooling : Tooling) (plan : Plan)
    {report : Report}
    (succeeded : (world.run (plan.provision tooling).run state).value = .ok report) :
    ∃ (found : Bool) (legs : List Leg),
      plan.phases found = legs.map Leg.phase ∧
      (∀ leg ∈ legs, leg.Occurs tooling ∧ leg.failure = none) ∧
      (world.run (plan.provision tooling).run state).calls = legs.flatMap Leg.calls := by
  obtain ⟨found, h, -⟩ := carriedOut_of_provision
    (world.run_yields (plan.provision tooling).run state)
  rw [succeeded, failure?_ok] at h
  exact ⟨found, h.exists_legs_of_done⟩

/-- A run that fails consists of one leg for each phase up to the one that fails. -/
theorem legs_of_provision_eq_error (world : World σ) (state : σ) (tooling : Tooling) (plan : Plan)
    {failure : Failure}
    (failed : (world.run (plan.provision tooling).run state).value = .error failure) :
    ∃ (found : Bool) (done : List Leg) (last : Leg) (skipped : List Phase),
      plan.phases found = done.map Leg.phase ++ last.phase :: skipped ∧
      (∀ leg ∈ done, leg.Occurs tooling ∧ leg.failure = none) ∧
      last.Occurs tooling ∧ last.failure = some failure ∧
      (world.run (plan.provision tooling).run state).calls =
        done.flatMap Leg.calls ++ last.calls := by
  obtain ⟨found, h, -⟩ := carriedOut_of_provision
    (world.run_yields (plan.provision tooling).run state)
  rw [failed, failure?_error] at h
  exact ⟨found, h.exists_legs_of_stopped⟩

end Plan

end HostProvision
