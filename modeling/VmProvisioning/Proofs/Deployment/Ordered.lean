import VmProvisioning.Proofs.Cluster.RunState
import VmProvisioning.Proofs.Deployment.Course
import VmProvisioning.Proofs.Deployment.Materialization
import VmProvisioning.Proofs.Json.Scalar

/-!
# The objects of a template are ordered

Members are put in order when a text is read, when parameters are put into an object and when it
is labelled. So whatever a template says, the object that a machine is based on is ordered.

## Main results

* `Json.isOrdered_of_mem_read?`: a JSON text spells an ordered value
* `Reference.isOrdered_fill`: values with parameters put in
* `Plan.isOrdered_of_mem_base`: the base of every machine that is deployed
* `Plan.ofBase_ofBase`, `Plan.runsBy_turns`: the object of such a machine, made again on itself, and
  started and stopped
-/

namespace VmProvisioning

/-! ## Reading -/

namespace Json

/-- **What is read is ordered**: values, and the members of an object. -/
theorem isOrdered_of_mem_readValue (fuel : Nat) :
    (∀ depth cs, ∀ read ∈ readValue fuel depth cs, read.1.IsOrdered) ∧
      ∀ depth cs, ∀ read ∈ readMembers fuel depth cs, ∀ member ∈ read.1, member.2.IsOrdered := by
  -- Induction on the fuel: every step hands one less to the values within.
  induction fuel with
  | zero =>
    constructor
    · rintro depth cs read ⟨⟩
    · rintro depth cs read ⟨⟩
  | succ fuel ih =>
    obtain ⟨ihValue, ihMembers⟩ := ih
    constructor
    · rintro depth cs ⟨value, rest⟩ hread
      unfold readValue at hread
      split at hread
      -- a text, an array, an object, or a value of another kind
      · obtain ⟨content, -, heq⟩ := Option.map_eq_some_iff.mp hread
        cases heq
        exact .plain rfl
      · split at hread
        · cases hread
        · split at hread
          · cases hread
            exact .plain rfl
          · obtain ⟨items, -, heq⟩ := Option.map_eq_some_iff.mp hread
            cases heq
            exact .plain rfl
      · split at hread
        · cases hread
        · split at hread
          · cases hread
            refine .object Fields.isOrdered_nil ?_
            rintro key member ⟨⟩
          · obtain ⟨members, hmembers, heq⟩ := Option.map_eq_some_iff.mp hread
            cases heq
            exact isOrdered_ofMembers (ihMembers _ _ _ hmembers)
      · exact .plain (isObject_of_isScalar (isScalar_of_mem_readScalar? _ hread))
    · intro depth cs
      unfold readMembers
      split
      · refine forall_mem_bind fun key _ => ?_
        dsimp only
        split
        · refine forall_mem_bind fun value hvalue => ?_
          have hordered := ihValue _ _ _ hvalue
          split
          · intro read hread
            cases hread
            simpa using hordered
          · refine forall_mem_bind fun others hothers => ?_
            intro read hread
            cases hread
            exact List.forall_mem_cons.mpr ⟨hordered, ihMembers _ _ _ hothers⟩
          · rintro read ⟨⟩
        · rintro read ⟨⟩
      · rintro read ⟨⟩

/-- **A JSON text** spells an ordered value. -/
theorem isOrdered_of_mem_read? {text : String} : ∀ value ∈ read? text, value.IsOrdered := by
  unfold read?
  refine forall_mem_bind fun read hread => ?_
  dsimp only
  split
  · intro value hvalue
    cases hvalue
    exact (isOrdered_of_mem_readValue _).1 _ _ _ hread
  · nofun

end Json

open Json

/-! ## Parameters -/

namespace Reference

variable {values : Fields String}

theorem isOrdered_fillValue (content : String) : (fillValue values content).IsOrdered := by
  unfold fillValue
  split
  · next spelled _ =>
    cases hread : read? spelled with
    | none => exact .plain rfl
    | some value => exact isOrdered_of_mem_read? value hread
  · exact .plain rfl

mutual

/-- **A value with parameters put in** is ordered, whatever it was before. -/
theorem isOrdered_fill : (value : Json) → (fill values value).IsOrdered
  | .text content => by
    rw [fill]
    exact isOrdered_fillValue content
  | .object members => by
    rw [fill]
    exact isOrdered_ofMembers (isOrdered_fillMembers members)
  | .array items => by
    rw [fill]
    exact .plain rfl
  | .null | .bool _ | .int _ | .double _ => by
    rw [fill]
    · exact .plain rfl
    all_goals nofun

theorem isOrdered_fillMembers : (members : List (String × Json)) →
    ∀ member ∈ fillMembers values members, member.2.IsOrdered
  | [] => nofun
  | (key, value) :: rest => by
    rw [fillMembers, List.forall_mem_cons]
    exact ⟨isOrdered_fill value, isOrdered_fillMembers rest⟩

end

end Reference

/-! ## Labels -/

namespace Manifest

variable {ns place : String} {labels : Fields String} {object : Json}

theorem isOrdered_foldl_insert {members : Fields Json} (h : (Json.object members).IsOrdered) :
    (Json.object (labels.foldl (fun members (key, value) => Fields.insert members key (.text value))
      members)).IsOrdered := by
  induction labels generalizing members with
  | nil => exact h
  | cons label rest ih => exact ih (h.insert label.1 (.plain rfl))

theorem isOrdered_relabel {present : Option Json} (h : ∀ value ∈ present, value.IsOrdered) :
    (relabel labels present).IsOrdered := by
  unfold relabel
  refine isOrdered_foldl_insert ?_
  split
  · exact h _ rfl
  · exact .object Fields.isOrdered_nil nofun

/-- **An object stays ordered** when it is labelled. -/
theorem isOrdered_own (h : object.IsOrdered) : (own ns labels object).IsOrdered := by
  have hmetadata (metadata : Json) (h : metadata.IsOrdered) :
      (ownMetadata ns labels metadata).IsOrdered := by
    cases metadata with
    | object members =>
      have hns := h.insert "namespace" (.plain (rfl : (Json.text ns).isObject = false))
      exact hns.insert "labels" (isOrdered_relabel fun value hvalue => hns.get? hvalue)
    | _ => exact h
  cases object with
  | object members =>
    refine h.insert "metadata" (hmetadata _ ?_)
    cases hget : Fields.get? members "metadata" with
    | none => exact .object Fields.isOrdered_nil nofun
    | some metadata => exact h.get? hget
  | _ => exact h

/-- Manifests of ordered objects have ordered objects. -/
theorem isOrdered_of_ofObjects {templateId : String} {objects : List Json} {index : Nat}
    {manifests : List Manifest} (hobjects : ∀ object ∈ objects, object.IsOrdered)
    (h : ofObjects templateId ns labels index objects = .ok manifests) :
    ∀ manifest ∈ manifests, manifest.object.IsOrdered := by
  -- Induction on the manifests with their objects; where an object stands does not matter.
  have hmade := forall₂_ofObject_of_ofObjects h
  clear h
  induction hmade with
  | nil => nofun
  | cons hfirst _ ih =>
    obtain ⟨place, hfirst⟩ := hfirst
    obtain ⟨kind, apiVersion, name, -, -, -, rfl⟩ := ofObject_eq_ok_iff.mp hfirst
    obtain ⟨hobject, hrest⟩ := List.forall_mem_cons.mp hobjects
    exact List.forall_mem_cons.mpr ⟨isOrdered_own hobject, ih hrest⟩

end Manifest

/-! ## Bases -/

namespace Plan

variable {σ : Type} {source : RandomSource σ} {state : σ} {template : Template}
  {request : DeployRequest} {datacenter : Datacenter} {plan : Plan}

/-- **The base of a machine that is deployed** is ordered, whatever its template says. -/
theorem isOrdered_of_mem_base
    (h : Plan.ofRequest source state template request datacenter = .ok plan) :
    ∀ object ∈ plan.base, object.IsOrdered := by
  obtain ⟨-, materialized, hmaterialized, rfl⟩ := (Plan.ofRequest_eq_ok_iff ..).mp h
  obtain ⟨-, hobjects, -⟩ := Materialized.ofTemplate_eq_ok_iff.mp hmaterialized
  have hmanifests := Manifest.isOrdered_of_ofObjects (by simp [Reference.isOrdered_fill]) hobjects
  intro object hobject
  obtain ⟨manifest, hfound, rfl⟩ := Option.map_eq_some_iff.mp hobject
  exact hmanifests manifest (List.mem_of_find?_eq_some hfound)

/-- The object of a machine that is deployed does not change when it is made again on itself. -/
theorem ofBase_ofBase (h : Plan.ofRequest source state template request datacenter = .ok plan) :
    Definition.ofBase plan.machine datacenter template
        (some (Definition.ofBase plan.machine datacenter template plan.base)) =
      Definition.ofBase plan.machine datacenter template plan.base :=
  Definition.ofBase_ofBase (isOrdered_of_mem_base h)

/-- The object of a machine that is deployed has one run state, however often the machine is
started and stopped. -/
theorem runsBy_turns (h : Plan.ofRequest source state template request datacenter = .ok plan)
    (changes : List Bool) :
    Definition.RunsBy
      (changes.foldl Definition.turn
        (Definition.ofBase plan.machine datacenter template plan.base))
      (changes.getLastD false) (Definition.mechanism plan.base) :=
  (Definition.runsBy_ofBase (isOrdered_of_mem_base h)).turns changes

end Plan

end VmProvisioning
