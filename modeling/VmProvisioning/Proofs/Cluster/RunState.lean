import Mathlib.Logic.ExistsUnique
import VmProvisioning.Proofs.Cluster.Overlay

/-!
# One run state in a machine object

The desired run state of a machine stands in one of two ways: as a strategy, or as a truth value
when there is no strategy. An object with both would be refused. The object of a machine has one of
them whatever its base has, and however often its machine is started and stopped, it is the same
one that says so.

## Main definitions

* `Definition.Mechanism`: the two ways
* `Definition.RunsBy`: an object with its run state in one way alone
* `Definition.turn`: a machine object that is started or stopped

## Main results

* `RunsBy.mechanism_eq`: the ways exclude each other
* `runsBy_ofBase`: the way of a machine object is that of its base
* `RunsBy.turn`, `RunsBy.turns`: one change and any number of them
* `wantsRunning_and_existsUnique_mechanism`: all of these
-/

namespace VmProvisioning.Definition

open Json

variable {machine : Machine} {datacenter : Datacenter} {template : Template}
  {members : Fields Json} {object : Json} {isRunning : Bool}

/-! ## The two ways -/

/-- **How the desired run state is said.** -/
inductive Mechanism where
  /-- By the name of a strategy. -/
  | strategy
  /-- By a truth value. -/
  | truth
deriving DecidableEq

/-- The strategy of a run state. -/
def strategyName (isRunning : Bool) : String :=
  if isRunning then "Always" else "Halted"

/-- **An object with its run state in one way alone.** -/
def RunsBy (object : Json) (isRunning : Bool) : Mechanism → Prop
  | .strategy => object.at? ["spec", "runStrategy"] = some (.text (strategyName isRunning)) ∧
      object.at? ["spec", "running"] = none
  | .truth => object.at? ["spec", "running"] = some (.bool isRunning) ∧
      runStrategy? object = none

/-- The way in which a base says its run state. -/
def mechanism (base : Option Json) : Mechanism :=
  if (base.bind runStrategy?).isSome then .strategy else .truth

variable {way other : Mechanism}

theorem strategyName_ne_empty (isRunning : Bool) : strategyName isRunning ≠ "" := by
  cases isRunning with
  | true => decide
  | false => decide

theorem RunsBy.isSome_runStrategy? (h : RunsBy object isRunning way) :
    (runStrategy? object).isSome = true ↔ way = .strategy := by
  cases way with
  | strategy => simp [runStrategy?_of_at? (strategyName_ne_empty isRunning) h.1]
  | truth => simp [h.2]

/-- **The two ways exclude each other.** -/
theorem RunsBy.mechanism_eq {wasRunning : Bool} (h : RunsBy object isRunning way)
    (hother : RunsBy object wasRunning other) : way = other := by
  have hiff := h.isSome_runStrategy?.symm.trans hother.isSome_runStrategy?
  cases way <;> cases other <;> simp_all

/-- The object wants what it says. -/
theorem RunsBy.wantsRunning (h : RunsBy object isRunning way) :
    wantsRunning object = isRunning := by
  cases way with
  | strategy =>
    rw [wantsRunning_of_runStrategy _ (strategyName_ne_empty isRunning) h.1]
    cases isRunning with
    | true => rfl
    | false => rfl
  | truth => exact wantsRunning_of_running h.2 h.1

/-! ## Machine objects -/

theorem runsBy_scratch : RunsBy (scratch machine datacenter template) false .truth :=
  ⟨at?_scratch_running, runStrategy?_scratch⟩

/-- **A machine object says its run state** in the way of its base, which is halted. -/
theorem runsBy_ofBase {base : Option Json} (h : ∀ object ∈ base, object.IsOrdered) :
    RunsBy (ofBase machine datacenter template base) false (mechanism base) := by
  by_cases hbase : ∃ members, base = some (.object members)
  · obtain ⟨members, rfl⟩ := hbase
    have hlaid : ((Json.object members).merge (overlay machine datacenter template)).IsOrdered :=
      (h _ rfl).merge isOrdered_overlay
    cases hstrategy : runStrategy? (.object members) with
    | some strategy =>
      have hsome := Option.isSome_of_eq_some hstrategy
      simp only [mechanism, Option.bind_some, hsome, if_true]
      refine ⟨at?_merge_haltPatch_runStrategy _ hsome, ?_⟩
      -- a strategy comes with the removal of the truth value
      refine at?_merge_of_null_mem_ends hlaid isOrdered_haltPatch ?_ ?_
      · rw [haltPatch, hstrategy]
        rfl
      · rw [ends_haltPatch, if_pos hsome]
        exact List.mem_cons_of_mem _ (List.mem_singleton.mpr rfl)
    | none =>
      simp only [mechanism, Option.bind_some, hstrategy]
      refine ⟨at?_merge_haltPatch_running _ hstrategy, ?_⟩
      rw [ofBase, runStrategy?_merge_haltPatch _ hstrategy, runStrategy?_merge_overlay, hstrategy]
  -- a base that is no object has no strategy
  · have hway : mechanism base = .truth := by
      cases base with
      | none => rfl
      | some value =>
        cases value with
        | object members => exact absurd ⟨members, rfl⟩ hbase
        | _ => rfl
    rw [ofBase_eq_scratch hbase, hway]
    exact runsBy_scratch

/-! ## Starting and stopping -/

/-- **A machine object that is started or stopped.** -/
def turn (object : Json) (isRunning : Bool) : Json :=
  object.merge (runPatch object isRunning)

/-- **One change** keeps the way in which the run state is said. -/
theorem RunsBy.turn {wasRunning : Bool} (h : RunsBy object wasRunning way) (isRunning : Bool) :
    RunsBy (turn object isRunning) isRunning way := by
  cases way with
  | strategy =>
    have hstrategy := runStrategy?_of_at? (strategyName_ne_empty wasRunning) h.1
    refine ⟨at?_merge_runPatch_runStrategy (Option.isSome_of_eq_some hstrategy) isRunning, ?_⟩
    have hleaves : Leaves (runPatch object isRunning) ["spec", "running"] := by
      simp only [runPatch, hstrategy]
      exact leaves_spec (by simp [Fields.get?])
    exact (at?_merge_of_leaves hleaves).trans h.2
  | truth =>
    exact ⟨at?_merge_runPatch_running h.2 isRunning, runStrategy?_merge_runPatch h.2 isRunning⟩

/-- **Any number of changes** keep the way, and the last one decides. -/
theorem RunsBy.turns {wasRunning : Bool} (h : RunsBy object wasRunning way)
    (changes : List Bool) :
    RunsBy (changes.foldl Definition.turn object) (changes.getLastD wasRunning) way := by
  -- Induction on the changes, from any object with its run state in this way.
  induction changes generalizing object wasRunning with
  | nil => exact h
  | cons isRunning rest ih =>
    rw [List.getLastD_cons]
    exact ih (h.turn isRunning)

theorem isObject_turn (object : Json) (isRunning : Bool) :
    (turn object isRunning).isObject = true := by
  unfold turn runPatch
  split
  · rfl
  · rfl

/-- **The run state of machine objects**: they are made halted whatever their base is, an object
that is started or stopped has the run state asked for, and after any number of starts and stops
just one way says the run state, that of the last. -/
theorem wantsRunning_and_existsUnique_mechanism (machine : Machine) (datacenter : Datacenter)
    (template : Template) :
    (∀ base, wantsRunning (ofBase machine datacenter template base) = false) ∧
    (∀ object isRunning, (turn object isRunning).isObject = true ∧
      wantsRunning (turn object isRunning) = isRunning) ∧
    ∀ base : Option Json, (∀ object ∈ base, object.IsOrdered) → ∀ changes : List Bool,
      (∃! way, ∃ isRunning,
        RunsBy (changes.foldl turn (ofBase machine datacenter template base)) isRunning way) ∧
      wantsRunning (changes.foldl turn (ofBase machine datacenter template base)) =
        changes.getLastD false := by
  refine ⟨wantsRunning_ofBase, fun object isRunning => ⟨isObject_turn object isRunning, ?_⟩,
    fun base hbase changes => ?_⟩
  · exact wantsRunning_merge_runPatch object isRunning
  · have hruns := (@runsBy_ofBase machine datacenter template base hbase).turns changes
    refine ⟨⟨mechanism base, ⟨_, hruns⟩, ?_⟩, hruns.wantsRunning⟩
    rintro way ⟨isRunning, hother⟩
    exact hother.mechanism_eq hruns

/-- Of the strategy and the truth value of the base only the strategy is left. -/
theorem existsUnique_mechanism_obstinateBase :
    let machine : Machine := .new "web" "Web" 2 "4Gi" "30Gi"
    let datacenter : Datacenter := ⟨"acme", "acme", "acme-dev", ⟨0, 0, 0⟩, none⟩
    let object := [true, false, true].foldl turn
      (ofBase machine datacenter (.new "fedora") (some (.object obstinateBase)))
    (Json.object obstinateBase).IsOrdered ∧
      (∃! way, ∃ isRunning, RunsBy object isRunning way) ∧ wantsRunning object = true := by
  intro machine datacenter object
  obtain ⟨-, -, hruns⟩ :=
    wantsRunning_and_existsUnique_mechanism machine datacenter (.new "fedora")
  refine ⟨isOrdered_obstinateBase, ?_⟩
  exact hruns _ (by simpa using isOrdered_obstinateBase) [true, false, true]

end VmProvisioning.Definition
