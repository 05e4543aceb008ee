import VmProvisioning.Proofs.Cluster.Definition
import VmProvisioning.Proofs.Json.MergeLaws

/-!
# What is laid over the base of a machine

A template may bring an object of its own for the machine. Whatever it says of the machine's
identity, owner and sizes is overruled, even where it has something else than an object in the way;
what it says elsewhere stays. The object of a machine is its own base, and so is the one that is
made from scratch: made again, neither changes.

## Main definitions

* `Definition.overlaid`: the paths that are overruled, with the values there
* `Definition.runStatePaths`: where the run state stands

## Main results

* `at?_ofBase_of_mem_overlaid`, `at?_ofBase_of_apart`: the paths that are set, and those left alone
* `isOrdered_ofBase`: the object of a machine is as it is kept
* `ofBase_ofBase`, `ofBase_scratch`: machine objects as bases
* `ofBase_overlays_and_again`: all of these
-/

namespace VmProvisioning.Definition

open Json

variable {machine : Machine} {datacenter : Datacenter} {template : Template}
  {members : Fields Json} {object : Json} {path : List String} {value : Json}

/-! ## What is overruled -/

/-- **The paths that are overruled**, with the values there: what the object is, what the machine
is called and whose it is, and its sizes. -/
def overlaid (machine : Machine) (datacenter : Datacenter) (template : Template) :
    List (List String × Json) :=
  [(["apiVersion"], .text Kind.machineApiVersion),
    (["kind"], .text Kind.machine),
    (["metadata", "annotations", Ownership.displayNameKey], .text machine.name),
    (["metadata", "labels", Ownership.managerKey], .text Ownership.manager),
    (["metadata", "labels", Ownership.templateKey], .text template.id),
    (["metadata", "labels", Ownership.datacenterKey], .text datacenter.id),
    (["metadata", "labels", Ownership.machineKey], .text machine.id),
    (["metadata", "name"], .text machine.id),
    (["metadata", "namespace"], .text datacenter.workloadNamespace),
    (["spec", "template", "metadata", "labels", Ownership.machineKey], .text machine.id),
    (["spec", "template", "spec", "domain", "cpu", "cores"], .ofUInt32 machine.cpu),
    (["spec", "template", "spec", "domain", "resources", "requests", "memory"],
      .text machine.memory)]

/-- Where the desired run state stands. -/
def runStatePaths : List (List String) :=
  [["spec", "running"], ["spec", "runStrategy"]]

/-- The overlay sets these paths, and goes no further. -/
theorem ends_overlay :
    (overlay machine datacenter template).ends = overlaid machine datacenter template := by
  -- the keys are known, so both sides compute to the same list
  rfl

theorem ends_haltPatch :
    (haltPatch object).ends =
      if (runStrategy? object).isSome then
        [(["spec", "runStrategy"], .text "Halted"), (["spec", "running"], .null)]
      else [(["spec", "running"], .bool false)] := by
  unfold haltPatch
  cases runStrategy? object with
  | some strategy => rfl
  | none => rfl

theorem mem_runStatePaths_of_mem_ends (h : (path, value) ∈ (haltPatch object).ends) :
    path ∈ runStatePaths := by
  rw [ends_haltPatch] at h
  split at h
  · rcases List.mem_pair.mp h with heq | heq
    · cases heq
      decide
    · cases heq
      decide
  · cases List.mem_singleton.mp h
    decide

/-- What is overruled is a text or a number. -/
theorem isObject_of_mem_overlaid (h : (path, value) ∈ overlaid machine datacenter template) :
    value.isObject = false ∧ value ≠ .null := by
  have hall : ∀ final ∈ overlaid machine datacenter template,
      final.2.isObject = false ∧ final.2 ≠ .null := by
    simp [overlaid, isObject, Json.ofUInt32]
  exact hall _ h

/-- The run state is not overruled. -/
theorem apart_runStatePaths_of_mem_overlaid
    (h : (path, value) ∈ overlaid machine datacenter template) :
    ∀ owned ∈ runStatePaths, Apart path owned := by
  have hall : ∀ final ∈ overlaid machine datacenter template,
      ∀ owned ∈ runStatePaths, Apart final.1 owned := by
    simp [overlaid, runStatePaths, Apart]
  exact hall _ h

/-! ## Ordered objects -/

theorem isOrdered_identity : (identity machine datacenter template).IsOrdered := by
  refine isOrdered_ofMembers ?_
  simp only [List.forall_mem_cons]
  refine ⟨.plain rfl, .plain rfl, isOrdered_ofTexts (Fields.isOrdered_ofList _), ?_, ?_⟩
  · exact isOrdered_ofTexts (isOrdered_singleton _ _)
  · simp

theorem isOrdered_of_mem_sizes : ∀ size ∈ sizes machine, size.2.IsOrdered := by
  simp only [sizes, List.forall_mem_cons]
  refine ⟨isOrdered_nest ?_ _, isOrdered_nest ?_ _, ?_⟩
  · exact .plain rfl
  · exact .plain rfl
  · simp

theorem isOrdered_overlay : (overlay machine datacenter template).IsOrdered := by
  refine isOrdered_ofMembers ?_
  simp only [List.forall_mem_cons]
  refine ⟨.plain rfl, .plain rfl, isOrdered_identity, isOrdered_nest ?_ _, ?_⟩
  · refine isOrdered_ofMembers ?_
    simp only [List.forall_mem_cons]
    refine ⟨isOrdered_nest (isOrdered_ofTexts (isOrdered_singleton _ _)) _,
      isOrdered_nest (isOrdered_ofMembers isOrdered_of_mem_sizes) _, ?_⟩
    simp
  · simp

theorem isOrdered_haltPatch : (haltPatch object).IsOrdered := by
  unfold haltPatch
  split
  · refine isOrdered_nest (isOrdered_ofMembers ?_) _
    simp only [List.forall_mem_cons]
    refine ⟨.plain rfl, .plain rfl, ?_⟩
    simp
  · exact isOrdered_nest (.plain rfl) _

theorem isOrdered_hardware : (hardware machine).IsOrdered := by
  refine isOrdered_ofMembers (List.forall_mem_append.mpr ⟨isOrdered_of_mem_sizes, ?_⟩)
  simp only [List.forall_mem_singleton]
  refine isOrdered_ofMembers ?_
  simp only [List.forall_mem_cons]
  refine ⟨.plain rfl, .plain rfl, ?_⟩
  simp

theorem isOrdered_scratch : (scratch machine datacenter template).IsOrdered := by
  refine isOrdered_ofMembers ?_
  simp only [List.forall_mem_cons]
  refine ⟨.plain rfl, .plain rfl, isOrdered_identity, isOrdered_ofMembers ?_, ?_⟩
  · simp only [List.forall_mem_cons]
    refine ⟨.plain rfl, .plain rfl, isOrdered_ofMembers ?_, ?_⟩
    · simp only [List.forall_mem_cons]
      refine ⟨isOrdered_nest (isOrdered_ofTexts (Fields.isOrdered_ofList _)) _,
        isOrdered_ofMembers ?_, ?_⟩
      · simp only [List.forall_mem_cons]
        refine ⟨isOrdered_hardware, .plain rfl, .plain rfl, ?_⟩
        simp
      · simp
    · simp
  · simp

/-- **The object of a machine is ordered** when its base is. -/
theorem isOrdered_ofBase {base : Option Json} (h : ∀ object ∈ base, object.IsOrdered) :
    (ofBase machine datacenter template base).IsOrdered := by
  unfold ofBase
  split
  · next members => exact ((h _ rfl).merge isOrdered_overlay).merge isOrdered_haltPatch
  · exact isOrdered_scratch

/-! ## Paths of the object -/

/-- **The paths that are overruled** have the values of the machine. -/
theorem at?_ofBase_of_mem_overlaid (h : (path, value) ∈ overlaid machine datacenter template) :
    (ofBase machine datacenter template (some (.object members))).at? path = some value := by
  obtain ⟨hobject, hnull⟩ := isObject_of_mem_overlaid h
  rw [ofBase, at?_merge_of_apart isOrdered_haltPatch]
  · exact at?_merge_of_mem_ends isOrdered_overlay (ends_overlay ▸ h) hobject hnull
  · rintro ⟨owned, inner⟩ hfinal
    exact apart_runStatePaths_of_mem_overlaid h owned (mem_runStatePaths_of_mem_ends hfinal)

/-- **The paths that are left alone**: those apart from what is overruled and from the run state. -/
theorem at?_ofBase_of_apart
    (hoverlaid : ∀ final ∈ overlaid machine datacenter template, Apart path final.1)
    (hrunState : ∀ owned ∈ runStatePaths, Apart path owned) :
    (ofBase machine datacenter template (some (.object members))).at? path =
      (Json.object members).at? path := by
  rw [ofBase, at?_merge_of_apart isOrdered_haltPatch, at?_merge_of_apart isOrdered_overlay]
  · rw [ends_overlay]
    exact hoverlaid
  · rintro ⟨owned, inner⟩ hfinal
    exact hrunState owned (mem_runStatePaths_of_mem_ends hfinal)

/-! ## Machine objects as bases -/

theorem isObject_ofBase (base : Option Json) :
    (ofBase machine datacenter template base).isObject = true := by
  unfold ofBase
  split
  · next members =>
    cases hstrategy : runStrategy? (.object members) with
    | some strategy => rw [haltPatch, hstrategy]; rfl
    | none => rw [haltPatch, hstrategy]; rfl
  · rfl

theorem ofBase_some (h : object.isObject = true) :
    ofBase machine datacenter template (some object) =
      (object.merge (overlay machine datacenter template)).merge (haltPatch object) := by
  cases object with
  | object members => rfl
  | _ => cases h

theorem ofBase_eq_scratch {base : Option Json} (h : ¬ ∃ members, base = some (.object members)) :
    ofBase machine datacenter template base = scratch machine datacenter template := by
  unfold ofBase
  split
  · exact absurd ⟨_, rfl⟩ h
  · rfl

/-- The object of a machine has a run strategy when its base has one. -/
theorem isSome_runStrategy?_ofBase :
    (runStrategy? (ofBase machine datacenter template (some (.object members)))).isSome =
      (runStrategy? (.object members)).isSome := by
  rw [ofBase]
  cases hstrategy : runStrategy? (.object members) with
  | some strategy =>
    rw [runStrategy?_of_at? (by decide)
      (at?_merge_haltPatch_runStrategy _ (Option.isSome_of_eq_some hstrategy))]
    rfl
  | none => rw [runStrategy?_merge_haltPatch _ hstrategy, runStrategy?_merge_overlay, hstrategy]

theorem haltPatch_congr {base : Json}
    (h : (runStrategy? object).isSome = (runStrategy? base).isSome) :
    haltPatch object = haltPatch base := by
  unfold haltPatch
  cases hobject : runStrategy? object <;> cases hbase : runStrategy? base <;>
    simp_all

/-- Within the specification the overlay names the template of instances only. -/
theorem areIndependent_overlay_spec {entries : Fields Json}
    (h : Fields.get? entries "template" = none) :
    AreIndependent (overlay machine datacenter template) (.nest ["spec"] (.object entries)) := by
  refine .object ?_
  intro key entry other hentry hother
  -- the second patch names the specification only, and there the first one names the template
  obtain ⟨rfl, rfl⟩ : "spec" = key ∧ Json.object entries = other :=
    (Option.ite_none_right_eq_some.mp hother).imp_right Option.some.inj
  obtain rfl := Option.some.inj (get?_overlay_spec.symm.trans hentry)
  refine .object ?_
  intro key entry other hentry hother
  obtain ⟨rfl, -⟩ : "template" = key ∧ _ := Option.ite_none_right_eq_some.mp hentry
  rw [h] at hother
  cases hother

theorem areIndependent_overlay_haltPatch :
    AreIndependent (overlay machine datacenter template) (haltPatch object) := by
  unfold haltPatch
  split
  · exact areIndependent_overlay_spec (by simp [Fields.get?_ofList, Fields.get?])
  · exact areIndependent_overlay_spec (by simp [Fields.get?])

/-- **Made again on itself** a machine object does not change. -/
theorem ofBase_ofBase_object (h : (Json.object members).IsOrdered) :
    ofBase machine datacenter template
        (some (ofBase machine datacenter template (some (.object members)))) =
      ofBase machine datacenter template (some (.object members)) := by
  have hlaid : ((Json.object members).merge (overlay machine datacenter template)).IsOrdered :=
    h.merge isOrdered_overlay
  rw [ofBase_some (isObject_ofBase _), haltPatch_congr isSome_runStrategy?_ofBase]
  generalize hpatch : haltPatch (.object members) = patch
  have hhalt : patch.IsOrdered := hpatch ▸ isOrdered_haltPatch
  have hapart : AreIndependent (overlay machine datacenter template) patch :=
    hpatch ▸ areIndependent_overlay_haltPatch
  rw [ofBase, hpatch]
  -- the overlay moves in front of the first halting, and each patch absorbs its repetition
  rw [← merge_comm_of_areIndependent hlaid isOrdered_overlay hhalt hapart,
    merge_merge_self h isOrdered_overlay, merge_merge_self hlaid hhalt]

/-- What is overruled is in place in an object that is made from scratch. -/
theorem at?_scratch_of_mem_overlaid (h : (path, value) ∈ overlaid machine datacenter template) :
    (scratch machine datacenter template).at? path = some value := by
  have hall : ∀ final ∈ overlaid machine datacenter template,
      (scratch machine datacenter template).at? final.1 = some final.2 := by
    simp only [overlaid, List.forall_mem_cons]
    refine ⟨rfl, rfl, rfl, rfl, rfl, rfl, rfl, rfl, rfl, rfl, rfl, rfl, ?_⟩
    simp
  exact hall _ h

/-- **An object that is made from scratch** is its own base. -/
theorem ofBase_scratch :
    ofBase machine datacenter template (some (scratch machine datacenter template)) =
      scratch machine datacenter template := by
  rw [ofBase_some rfl, merge_eq_self_of_ends isOrdered_scratch isOrdered_overlay,
    merge_eq_self_of_ends isOrdered_scratch isOrdered_haltPatch]
  · rw [ends_haltPatch, runStrategy?_scratch]
    intro final hfinal
    obtain rfl := List.mem_singleton.mp hfinal
    exact ⟨nofun, at?_scratch_running⟩
  · rw [ends_overlay]
    rintro ⟨path, value⟩ hfinal
    exact ⟨(isObject_of_mem_overlaid hfinal).2, at?_scratch_of_mem_overlaid hfinal⟩

/-- **Made again on itself** the object of a machine does not change, whatever its base is. -/
theorem ofBase_ofBase {base : Option Json} (h : ∀ object ∈ base, object.IsOrdered) :
    ofBase machine datacenter template (some (ofBase machine datacenter template base)) =
      ofBase machine datacenter template base := by
  by_cases hbase : ∃ members, base = some (.object members)
  · obtain ⟨members, rfl⟩ := hbase
    exact ofBase_ofBase_object (h _ rfl)
  · rw [ofBase_eq_scratch hbase, ofBase_scratch]

/-- **What is laid over a base**: identity, owner and sizes have the values of the machine whatever
the base has there, what is apart from them and from the run state stays, and made again on itself
the object does not change. The object that is made from scratch is its own base. -/
theorem ofBase_overlays_and_again (machine : Machine) (datacenter : Datacenter)
    (template : Template) :
    (∀ members : Fields Json,
      (∀ final ∈ overlaid machine datacenter template,
        (ofBase machine datacenter template (some (.object members))).at? final.1 =
          some final.2) ∧
      ∀ path, (∀ final ∈ overlaid machine datacenter template, Apart path final.1) →
        (∀ owned ∈ runStatePaths, Apart path owned) →
        (ofBase machine datacenter template (some (.object members))).at? path =
          (Json.object members).at? path) ∧
    (∀ base : Option Json, (∀ object ∈ base, object.IsOrdered) →
      ofBase machine datacenter template (some (ofBase machine datacenter template base)) =
        ofBase machine datacenter template base) ∧
    ofBase machine datacenter template (some (scratch machine datacenter template)) =
      scratch machine datacenter template := by
  refine ⟨fun members => ⟨fun final hfinal => ?_, fun path hoverlaid hrunState => ?_⟩,
    fun base hbase => ofBase_ofBase hbase, ofBase_scratch⟩
  · exact at?_ofBase_of_mem_overlaid hfinal
  · exact at?_ofBase_of_apart hoverlaid hrunState

/-- A base with a text in the place of its metadata, and both a strategy and a truth value. -/
def obstinateBase : Fields Json :=
  Fields.ofList [("metadata", .text "none"),
    ("spec", .ofMembers [("runStrategy", .text "Manual"), ("running", .bool true),
      ("volumes", .array [])])]

theorem isOrdered_obstinateBase : (Json.object obstinateBase).IsOrdered := by
  refine isOrdered_ofMembers ?_
  simp only [List.forall_mem_cons]
  refine ⟨.plain rfl, isOrdered_ofMembers ?_, ?_⟩
  · simp only [List.forall_mem_cons]
    refine ⟨.plain rfl, .plain rfl, .plain rfl, ?_⟩
    simp
  · simp

/-- The text gives way, and the volumes stay. -/
theorem ofBase_obstinateBase :
    let machine : Machine := .new "web" "Web" 2 "4Gi" "30Gi"
    let datacenter : Datacenter := ⟨"acme", "acme", "acme-dev", ⟨0, 0, 0⟩, none⟩
    let object := ofBase machine datacenter (.new "fedora") (some (.object obstinateBase))
    (Json.object obstinateBase).IsOrdered ∧
      object.at? ["metadata", "name"] = some (.text "web") ∧
      object.at? ["spec", "volumes"] = some (.array []) ∧
      ofBase machine datacenter (.new "fedora") (some object) = object := by
  intro machine datacenter object
  obtain ⟨hpaths, hagain, -⟩ := ofBase_overlays_and_again machine datacenter (.new "fedora")
  obtain ⟨hoverlaid, hapart⟩ := hpaths obstinateBase
  refine ⟨isOrdered_obstinateBase, ?_, ?_, ?_⟩
  · exact hoverlaid (["metadata", "name"], .text "web") (by simp [overlaid, machine, Machine.new])
  · exact hapart ["spec", "volumes"] (by decide) (by decide)
  · exact hagain _ (by simpa using isOrdered_obstinateBase)

end VmProvisioning.Definition
