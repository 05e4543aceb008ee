import VmProvisioning.Cluster.Definition
import VmProvisioning.Proofs.Api.Object

/-!
# What machine objects keep of their base

The object of a machine has its identity, its sizes and its run state laid over the base. The disk
templates of the base stay as they are, and an object that can be read stays readable.

## Main definitions

* `Definition.requestedDisk?`: the disk that a machine object asks for

## Main results

* `at?_ofBase_disks`: the disk templates of a machine object are those of its base
* `wantsRunning_ofBase`, `wantsRunning_merge_runPatch`: machine objects are made halted, and
  have the run state that they are patched to
* `runPatch_merge_runPatch`: the run state can be changed again with the same patch
* `isReadable_ofBase`, `name_ofBase`: the object of a machine is readable and has its name
-/

namespace VmProvisioning

namespace Definition

open Json

/-- Where a machine object has its disk templates. -/
def disksPath : List String :=
  ["spec", "dataVolumeTemplates"]

/-- **The disk that a machine object asks for**: the size of its first disk template with one. -/
def requestedDisk? (object : Json) : Option String :=
  (object.itemsAt disksPath).findSome? Classification.requestedStorage?

variable {machine : Machine} {datacenter : Datacenter} {template : Template}
  {members : Fields Json} {base object : Json}

/-- The disk that an object asks for stands among its disk templates. -/
theorem requestedDisk?_congr (h : object.at? disksPath = base.at? disksPath) :
    requestedDisk? object = requestedDisk? base := by
  simp only [requestedDisk?, itemsAt, h]

theorem requestedDisk?_object? (h : Api.object? base = some object) :
    requestedDisk? object = requestedDisk? base :=
  requestedDisk?_congr (Api.at?_object? h (by decide) (by decide) (by decide))

/-! ## What is laid over a base -/

theorem get?_overlay_spec :
    Fields.get? (overlay machine datacenter template).members "spec" =
      some (.nest ["template"] (.ofMembers [
        ("metadata", .nest ["labels"] (.ofTexts [machineLabel machine])),
        ("spec", .nest ["domain"] (.ofMembers (sizes machine)))])) := by
  simp [overlay, ofMembers, Json.members, Fields.get?_ofList, Fields.get?]

/-- The overlay does not go into the specification but for the template of instances. -/
theorem leaves_overlay {key : String} {path : List String} (h : key ≠ "template") :
    Leaves (overlay machine datacenter template) ("spec" :: key :: path) :=
  .inside (Fields.isOrdered_ofList _) get?_overlay_spec (.absent (by simp [Fields.get?, h.symm]))

theorem isOrdered_singleton {α : Type} (key : String) (value : α) :
    Fields.IsOrdered [(key, value)] := by
  simp [Fields.IsOrdered, Fields.keys]

/-- A patch of the specification leaves alone what it does not name. -/
theorem leaves_spec {entries : Fields Json} {key : String} {path : List String}
    (h : Fields.get? entries key = none) :
    Leaves (.nest ["spec"] (.object entries)) ("spec" :: key :: path) :=
  .inside (isOrdered_singleton _ _) (by simp [Fields.get?]) (.absent h)

/-- A patch of the specification sets a member of it. -/
theorem sets_spec {entries : Fields Json} {key : String} {value : Json}
    (hord : Fields.IsOrdered entries) (h : Fields.get? entries key = some value)
    (hobject : value.isObject = false) (hnull : value ≠ .null) :
    Sets value (.nest ["spec"] (.object entries)) ["spec", key] :=
  .inside (isOrdered_singleton _ _) (by simp [Fields.get?]) (.inside hord h (.here hobject hnull))

/-- Halting a machine changes its run state only. -/
theorem leaves_haltPatch {key : String} {path : List String} (hstrategy : key ≠ "runStrategy")
    (hrunning : key ≠ "running") : Leaves (haltPatch base) ("spec" :: key :: path) := by
  unfold haltPatch
  split
  · exact leaves_spec (by simp [Fields.get?_ofList, Fields.get?, hstrategy.symm, hrunning.symm])
  · exact leaves_spec (by simp [Fields.get?, hrunning.symm])

/-- **The disk templates of a machine object** are those of its base. -/
theorem at?_ofBase_disks :
    (ofBase machine datacenter template (some (.object members))).at? disksPath =
      (Json.object members).at? disksPath := by
  rw [ofBase, disksPath, at?_merge_of_leaves (leaves_haltPatch (by decide) (by decide)),
    at?_merge_of_leaves (leaves_overlay (by decide))]

/-- A machine object without a base asks for the disk of its machine. -/
theorem requestedDisk?_scratch (h : machine.diskSize ≠ "") :
    requestedDisk? (scratch machine datacenter template) = some machine.diskSize := by
  simp [requestedDisk?, disksPath, scratch, rootDisk, itemsAt, ofMembers, Fields.get?_ofList,
    Fields.get?, Classification.requestedStorage?, nonEmptyTextAt?, textAt?, nest, text?, h]

/-- **The disk that a machine object asks for**: that of its base, and without one that of its
machine. -/
theorem requestedDisk?_ofBase (h : machine.diskSize ≠ "") {base : Option Json}
    (hbase : ∀ object ∈ base, object.isObject) :
    requestedDisk? (ofBase machine datacenter template base) =
      base.elim (some machine.diskSize) requestedDisk? := by
  cases base with
  | none => exact requestedDisk?_scratch h
  | some object =>
    cases object with
    | object members => exact requestedDisk?_congr at?_ofBase_disks
    | _ => cases hbase _ rfl

/-! ## Run state -/

/-- The desired run state stands in two members of the specification. -/
theorem wantsRunning_congr
    (hstrategy : object.at? ["spec", "runStrategy"] = base.at? ["spec", "runStrategy"])
    (hrunning : object.at? ["spec", "running"] = base.at? ["spec", "running"]) :
    wantsRunning object = wantsRunning base := by
  simp only [wantsRunning, runStrategy?, nonEmptyTextAt?, textAt?, boolAt?, hstrategy, hrunning]

theorem wantsRunning_object? (h : Api.object? base = some object) :
    wantsRunning object = wantsRunning base :=
  wantsRunning_congr (Api.at?_object? h (by decide) (by decide) (by decide))
    (Api.at?_object? h (by decide) (by decide) (by decide))

theorem runStrategy?_of_at? {strategy : String} (hne : strategy ≠ "")
    (h : object.at? ["spec", "runStrategy"] = some (.text strategy)) :
    runStrategy? object = some strategy := by
  simp [runStrategy?, nonEmptyTextAt?, textAt?, h, text?, Option.filter, hne]

/-- With a run strategy the desired run state is what the strategy says. -/
theorem wantsRunning_of_runStrategy (strategy : String) (hne : strategy ≠ "")
    (h : object.at? ["spec", "runStrategy"] = some (.text strategy)) :
    wantsRunning object = (strategy == "Always" || strategy == "RerunOnFailure") := by
  simp only [wantsRunning, runStrategy?_of_at? hne h]

/-- Without a run strategy the desired run state is a truth value. -/
theorem wantsRunning_of_running {isRunning : Bool} (hstrategy : runStrategy? object = none)
    (h : object.at? ["spec", "running"] = some (.bool isRunning)) :
    wantsRunning object = isRunning := by
  simp [wantsRunning, hstrategy, boolAt?, h, bool?]

theorem runStrategy?_congr
    (h : object.at? ["spec", "runStrategy"] = base.at? ["spec", "runStrategy"]) :
    runStrategy? object = runStrategy? base := by
  simp only [runStrategy?, nonEmptyTextAt?, textAt?, h]

/-! ### Halting and changing -/

theorem at?_merge_haltPatch_runStrategy (target : Json) (h : (runStrategy? object).isSome) :
    (target.merge (haltPatch object)).at? ["spec", "runStrategy"] = some (.text "Halted") := by
  obtain ⟨strategy, hstrategy⟩ := Option.isSome_iff_exists.mp h
  simp only [haltPatch, hstrategy]
  refine at?_merge_of_sets ?_
  exact sets_spec (Fields.isOrdered_ofList _) (by simp [Fields.get?_ofList, Fields.get?]) rfl
    (by simp)

theorem at?_merge_haltPatch_running (target : Json) (h : runStrategy? object = none) :
    (target.merge (haltPatch object)).at? ["spec", "running"] = some (.bool false) := by
  simp only [haltPatch, h]
  refine at?_merge_of_sets ?_
  exact sets_spec (isOrdered_singleton _ _) (by simp [Fields.get?]) rfl (by simp)

/-- Halting without a run strategy adds none. -/
theorem runStrategy?_merge_haltPatch (target : Json) (h : runStrategy? object = none) :
    runStrategy? (target.merge (haltPatch object)) = runStrategy? target := by
  simp only [haltPatch, h]
  refine runStrategy?_congr (at?_merge_of_leaves ?_)
  exact leaves_spec (by simp [Fields.get?])

theorem runStrategy?_merge_overlay (target : Json) :
    runStrategy? (target.merge (overlay machine datacenter template)) = runStrategy? target :=
  runStrategy?_congr (at?_merge_of_leaves (leaves_overlay (by decide)))

theorem at?_merge_runPatch_runStrategy (h : (runStrategy? object).isSome) (isRunning : Bool) :
    (object.merge (runPatch object isRunning)).at? ["spec", "runStrategy"] =
      some (.text (if isRunning then "Always" else "Halted")) := by
  obtain ⟨strategy, hstrategy⟩ := Option.isSome_iff_exists.mp h
  simp only [runPatch, hstrategy]
  refine at?_merge_of_sets ?_
  exact sets_spec (isOrdered_singleton _ _) (by simp [Fields.get?]) rfl (by simp)

theorem at?_merge_runPatch_running (h : runStrategy? object = none) (isRunning : Bool) :
    (object.merge (runPatch object isRunning)).at? ["spec", "running"] =
      some (.bool isRunning) := by
  simp only [runPatch, h]
  refine at?_merge_of_sets ?_
  exact sets_spec (isOrdered_singleton _ _) (by simp [Fields.get?]) rfl (by simp)

theorem runStrategy?_merge_runPatch (h : runStrategy? object = none) (isRunning : Bool) :
    runStrategy? (object.merge (runPatch object isRunning)) = none := by
  have hleaves : Leaves (runPatch object isRunning) ["spec", "runStrategy"] := by
    simp only [runPatch, h]
    exact leaves_spec (by simp [Fields.get?])
  rw [runStrategy?_congr (at?_merge_of_leaves hleaves), h]

theorem runStrategy?_scratch : runStrategy? (scratch machine datacenter template) = none := by
  simp [scratch, runStrategy?, nonEmptyTextAt?, textAt?, ofMembers, Fields.get?_ofList,
    Fields.get?]

theorem at?_scratch_running :
    (scratch machine datacenter template).at? ["spec", "running"] = some (.bool false) := by
  rfl

/-- **A machine object is made halted**, whatever its base wants. -/
theorem wantsRunning_ofBase (base : Option Json) :
    wantsRunning (ofBase machine datacenter template base) = false := by
  unfold ofBase
  split
  · next members =>
    cases hstrategy : runStrategy? (.object members) with
    -- the strategy of the base is replaced, and decides
    | some strategy =>
      exact wantsRunning_of_runStrategy "Halted" (by decide)
        (at?_merge_haltPatch_runStrategy _ (Option.isSome_of_eq_some hstrategy))
    -- the truth value is replaced, and decides as there is still no strategy
    | none =>
      refine wantsRunning_of_running ?_ (at?_merge_haltPatch_running _ hstrategy)
      rw [runStrategy?_merge_haltPatch _ hstrategy, runStrategy?_merge_overlay, hstrategy]
  · exact wantsRunning_of_running runStrategy?_scratch at?_scratch_running

/-- **Changing the desired run state** gives an object with that run state. -/
theorem wantsRunning_merge_runPatch (object : Json) (isRunning : Bool) :
    wantsRunning (object.merge (runPatch object isRunning)) = isRunning := by
  cases hstrategy : runStrategy? object with
  | some strategy =>
    have hset := at?_merge_runPatch_runStrategy (Option.isSome_of_eq_some hstrategy) isRunning
    cases isRunning with
    | true => exact wantsRunning_of_runStrategy "Always" (by decide) hset
    | false => exact wantsRunning_of_runStrategy "Halted" (by decide) hset
  | none =>
    exact wantsRunning_of_running (runStrategy?_merge_runPatch hstrategy isRunning)
      (at?_merge_runPatch_running hstrategy isRunning)

/-- The patch of the desired run state depends on whether there is a run strategy. -/
theorem runPatch_congr (h : (runStrategy? object).isSome = (runStrategy? base).isSome) :
    runPatch object = runPatch base := by
  funext isRunning
  unfold runPatch
  cases hobject : runStrategy? object <;> cases hbase : runStrategy? base <;>
    simp_all

/-- Changing the desired run state neither adds nor removes a run strategy. -/
theorem isSome_runStrategy?_merge_runPatch (object : Json) (isRunning : Bool) :
    (runStrategy? (object.merge (runPatch object isRunning))).isSome =
      (runStrategy? object).isSome := by
  cases hstrategy : runStrategy? object with
  | some strategy =>
    have hset := at?_merge_runPatch_runStrategy (Option.isSome_of_eq_some hstrategy) isRunning
    rw [runStrategy?_of_at? (by cases isRunning <;> decide) hset]
    rfl
  | none => rw [runStrategy?_merge_runPatch hstrategy isRunning]

/-- Changing the desired run state again takes the same patch. -/
theorem runPatch_merge_runPatch (object : Json) (isRunning : Bool) :
    runPatch (object.merge (runPatch object isRunning)) = runPatch object :=
  runPatch_congr (isSome_runStrategy?_merge_runPatch object isRunning)

/-! ## Readability -/

theorem get?_identity (key : String) :
    Fields.get? (identity machine datacenter template).members key =
      if key = "annotations" then some (.ofTexts [(Ownership.displayNameKey, machine.name)])
      else if key = "labels" then
        some (.ofTexts (Ownership.labels machine.id datacenter.id template.id))
      else if key = "namespace" then some (.text datacenter.workloadNamespace)
      else if key = "name" then some (.text machine.id)
      else none := by
  simp only [identity, ofMembers, Json.members, Fields.get?_ofList, List.reverse_cons,
    List.reverse_nil, List.nil_append, List.cons_append, Fields.get?, @eq_comm _ _ key]

/-- Metadata stay readable under those that say what a machine is. -/
theorem isSome_read?_merge_identity
    (h : (Schema.metadata.read? (.object members)).isSome) :
    (Schema.metadata.read? (.object
      (mergeMembers members (identity machine datacenter template).members))).isSome := by
  refine Api.isSome_read?_mergeMembers (Fields.isOrdered_ofList _) ?_ h
  simp [Schema.optional, get?_identity, Api.fits_text, Api.fits_texts]

theorem isSome_read?_identity :
    (Schema.metadata.read? (identity machine datacenter template)).isSome := by
  refine Schema.read?_record_isSome_iff.mpr ?_
  have hget := @get?_identity machine datacenter template
  simp only [identity, ofMembers, Json.members] at hget
  simp [Schema.optional, Schema.present?, hget, Option.filter_eq_some_iff, Schema.read?, text?]

/-- The object of a machine without a base is readable. -/
theorem isReadable_scratch : Api.IsReadable (scratch machine datacenter template) := by
  refine Api.isReadable_object_iff.mpr ?_
  simp [Api.metadata?, Fields.get?_ofList, Fields.get?, isSome_read?_identity]

theorem get?_overlay_metadata :
    Fields.get? (overlay machine datacenter template).members "metadata" =
      some (.object (identity machine datacenter template).members) := by
  simp [overlay, identity, ofMembers, Json.members, Fields.get?_ofList, Fields.get?]

/-- **The object of a machine is readable** when its base is. -/
theorem isReadable_ofBase {base : Option Json}
    (h : ∀ members, base = some (.object members) → Api.IsReadable (.object members)) :
    Api.IsReadable (ofBase machine datacenter template base) := by
  unfold ofBase
  split
  · next members =>
    -- The overlay fits the metadata, and halting leaves them alone.
    have hoverlay : Api.IsReadable
        ((Json.object members).merge (overlay machine datacenter template)) :=
      (h members rfl).merge_metadata (Fields.isOrdered_ofList _) get?_overlay_metadata
        fun present => isSome_read?_merge_identity
    unfold haltPatch
    split
    · exact hoverlay.merge rfl
    · exact hoverlay.merge rfl
  · exact isReadable_scratch

theorem isReadable_merge_runPatch (h : Api.IsReadable object) (isRunning : Bool) :
    Api.IsReadable (object.merge (runPatch object isRunning)) := by
  unfold runPatch
  split
  · exact h.merge rfl
  · exact h.merge rfl

/-- **The object of a machine has its name.** -/
theorem name_ofBase (base : Option Json) :
    (ofBase machine datacenter template base).textAt? ["metadata", "name"] = some machine.id := by
  unfold ofBase
  split
  · next members =>
    -- The overlay sets the name, and halting leaves it alone.
    have hname : Sets (.text machine.id) (overlay machine datacenter template)
        ["metadata", "name"] :=
      .inside (Fields.isOrdered_ofList _) get?_overlay_metadata
        (.inside (Fields.isOrdered_ofList _) (by simp [get?_identity]) (.here rfl (by simp)))
    have hhalt : Leaves (haltPatch (.object members)) ["metadata", "name"] := by
      unfold haltPatch
      split
      · exact .absent rfl
      · exact .absent rfl
    rw [textAt?, at?_merge_of_leaves hhalt, at?_merge_of_sets hname]
    rfl
  · have hname : (identity machine datacenter template).member? "name" =
        some (.text machine.id) := by
      simp [member?_eq_get?_members, get?_identity]
    simp [scratch, textAt?, ofMembers, Fields.get?_ofList, Fields.get?, hname, text?]

end Definition

end VmProvisioning
