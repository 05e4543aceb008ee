import VmProvisioning.Deployment.Surroundings
import VmProvisioning.Proofs.Cluster.Sweep
import VmProvisioning.Proofs.Deployment.Course
import VmProvisioning.Proofs.Deployment.Manifest

/-!
# What a deployment leaves on a cluster

A deployment that succeeds has created its machine and all of its companions, each where nothing
was kept before, and it has changed nothing else.

## Main definitions

* `Surroundings.carryOn`: an action of a deployment on a cluster
* `IsCreated`: an object that a cluster has created
* `Grown`: a store to which only some objects were added
* `Footprint`: what a deployment adds to a store

## Main results

* `exists_isCreated`: what a creation does that is not refused
* `exec_deploy_eq_ok`: the steps of a deployment that succeeds
* `footprint_of_deploy`: a deployment that succeeds leaves its footprint, and nothing else
-/

namespace VmProvisioning

open Api Interaction

/-! ## Creations -/

/-- **An object that a cluster has created** on a request for a resource. -/
structure IsCreated (platform : Platform) (versions : StorageVersions) (resource : Resource)
    (ns : String) (object : Json) (location : Location) : Prop where
  serves : platform.serves (resource.stored versions) = true
  eq_place : location = (resource.stored versions).place ns location.name
  name : object.textAt? ["metadata", "name"] = some location.name

/-- **A creation that is not refused** puts the object where none was kept. -/
theorem exists_isCreated {platform : Platform} {versions : StorageVersions} {resource : Resource}
    {ns : String} {object : Json} {store : Store} {α : Type} {read : Json → Option α} {value : α}
    (h : ((platform.answerIn versions (.create resource ns object)).run store).1.read read =
      .ok value) :
    ∃ location, IsCreated platform versions resource ns object location ∧
      store.kept location = none ∧
      ((platform.answerIn versions (.create resource ns object)).run store).2.kept =
        (store.put location object).kept := by
  cases hserves : platform.serves (resource.stored versions) with
  | false =>
    rw [Platform.answerIn_of_not_serves rfl hserves] at h
    cases h
  | true =>
    rw [Platform.answerIn_of_serves rfl hserves] at h ⊢
    simp only [Request.mapResource, Platform.serve] at h ⊢
    cases hname : object.textAt? ["metadata", "name"] with
    | none =>
      simp only [hname] at h
      rw [read_refuse (by decide) (by decide)] at h
      cases h
    | some name =>
      cases hshown : store.shown platform ((resource.stored versions).place ns name) with
      | some present =>
        simp only [hname, hshown] at h
        rw [read_refuse (by decide) (by decide)] at h
        cases h
      | none =>
        exact ⟨(resource.stored versions).place ns name, ⟨hserves, rfl, hname⟩,
          Store.kept_of_not_shown hshown, by simp only [hshown, Store.kept_tick]⟩

/-! ## Stores that grow -/

/-- **Only some objects were added** to a store, and all that was there is still there. -/
structure Grown (IsNew : Location → Json → Prop) (store changed : Store) : Prop where
  keeps : ∀ location object, store.kept location = some object →
    changed.kept location = some object
  isNew : ∀ location object, store.kept location = none → changed.kept location = some object →
    IsNew location object

namespace Grown

variable {IsNew : Location → Json → Prop} {one two three : Store} {location : Location}
  {object : Json}

theorem of_kept_eq (h : two.kept = one.kept) : Grown IsNew one two where
  keeps _ _ hkept := h ▸ hkept
  isNew location object hnone hsome := by
    rw [h, hnone] at hsome
    cases hsome

theorem of_put (hnone : one.kept location = none)
    (hput : two.kept = (one.put location object).kept) (hnew : IsNew location object) :
    Grown IsNew one two where
  keeps other present hkept := by
    rw [hput, Store.kept_put, if_neg]
    · exact hkept
    · rintro rfl
      rw [hnone] at hkept
      cases hkept
  isNew other present hother hpresent := by
    rw [hput] at hpresent
    rcases Store.eq_or_kept_of_kept_put hpresent with ⟨rfl, rfl⟩ | hkept
    · exact hnew
    · rw [hother] at hkept
      cases hkept

theorem kept_eq_none (h : Grown IsNew one two) (hnone : two.kept location = none) :
    one.kept location = none :=
  Option.eq_none_iff_forall_ne_some.mpr fun object hobject => by
    simpa [hnone] using h.keeps _ _ hobject

theorem trans (hfirst : Grown IsNew one two) (hsecond : Grown IsNew two three) :
    Grown IsNew one three where
  keeps _ _ h := hsecond.keeps _ _ (hfirst.keeps _ _ h)
  isNew location object hnone hobject := by
    -- The object was added by the second step, or was there before it.
    cases hmiddle : two.kept location with
    | none => exact hsecond.isNew _ _ hmiddle hobject
    | some present =>
      rw [hsecond.keeps _ _ hmiddle] at hobject
      exact Option.some.inj hobject ▸ hfirst.isNew _ _ hnone hmiddle

theorem mono {IsOther : Location → Json → Prop} (h : Grown IsNew one two)
    (hnew : ∀ location object, IsNew location object → IsOther location object) :
    Grown IsOther one two where
  keeps := h.keeps
  isNew _ _ hnone hobject := hnew _ _ (h.isNew _ _ hnone hobject)

end Grown

/-! ## Actions on a cluster -/

/-- **An action of a deployment on a cluster**: its result and what is in memory, and the objects
of the cluster afterwards. -/
def Surroundings.carryOn {α : Type} (surroundings : Surroundings) (platform : Platform)
    (versions : StorageVersions) (now : String) (action : DeployAction α) (memory : Memory) :
    StateM Store (Except Failure α × Memory) :=
  ((action.run.run (surroundings.answer now)).run memory).run (platform.answerIn versions)

/-- What the surroundings on a cluster answer to a deployment. -/
def Surroundings.answerOn (surroundings : Surroundings) (platform : Platform)
    (versions : StorageVersions) (now : String) (query : DeployQuery) :
    StateM (Memory × Store) query.Reply :=
  Interaction.via (surroundings.answer now) (platform.answerIn versions) query

theorem Surroundings.carryOn_run {α : Type} (surroundings : Surroundings) (platform : Platform)
    (versions : StorageVersions) (now : String) (action : DeployAction α) (memory : Memory)
    (store : Store) :
    (surroundings.carryOn platform versions now action memory).run store =
      let (result, memory, store) :=
        (action.exec (surroundings.answerOn platform versions now)).run (memory, store)
      ((result, memory), store) :=
  run_run _ _ _ _ _

section Answers

variable {surroundings : Surroundings} {platform : Platform} {versions : StorageVersions}
  {now : String} {memory : Memory} {store : Store}

/-- A question that is left to the cluster. -/
theorem Surroundings.answerOn_of_lift {query : DeployQuery} {dialogue : Dialogue query.Reply}
    (h : surroundings.answer now query = StateT.lift dialogue) :
    (surroundings.answerOn platform versions now query).run (memory, store) =
      let (reply, changed) := (dialogue.run (platform.answerIn versions)).run store
      (reply, memory, changed) :=
  via_of_lift h _ _ _

/-- **Fetching a template** changes no objects. -/
theorem kept_fetch (surroundings : Surroundings) (platform : Platform)
    (versions : StorageVersions) (now templateId : String) (state : Memory × Store) :
    (((DeployAction.fetch templateId).exec (surroundings.answerOn platform versions now)).run
      state).2.2.kept = state.2.kept := by
  obtain ⟨memory, store⟩ := state
  show ((surroundings.answerOn platform versions now (.fetch templateId)).run
    (memory, store)).2.2.kept = store.kept
  cases hsource : surroundings.templates with
  | static source =>
    have hlift : surroundings.answer now (.fetch templateId) =
        StateT.lift (.done (source.answer (.get templateId))) := by
      simp only [Surroundings.answer, hsource, Surroundings.ofStore]
      rfl
    rw [Surroundings.answerOn_of_lift hlift]
    rfl
  | cluster source =>
    have hlift : surroundings.answer now (.fetch templateId) =
        StateT.lift (source.answer (.get templateId)) := by
      simp only [Surroundings.answer, hsource, Surroundings.ofStore]
    rw [Surroundings.answerOn_of_lift hlift]
    exact kept_exec_of_asks_reading (asks_exchangeOr rfl) store

end Answers

/-! ## The steps of a deployment -/

section Steps

variable {τ σ : Type} {answer : (query : DeployQuery) → StateM τ query.Reply} {before after : τ}

theorem exec_submit_eq_ok {manifest : Manifest}
    (h : ((DeployAction.submit manifest).exec answer).run before = (.ok (), after)) :
    (answer (.submit manifest)).run before = (.ok (), after) := by
  simp only [DeployAction.submit, Operation.exec, ExceptT.run_mk, Interaction.run,
    StateT.run_bind] at h
  rcases hanswer : (answer (.submit manifest)).run before with ⟨failure | ⟨⟩, between⟩
  · rw [hanswer] at h
    cases h
  · rw [hanswer] at h
    cases h
    rfl

/-- A deployment does not succeed by abandoning its machine. -/
theorem exec_carryOut_eq_ok {plan : Plan} {datacenter : Datacenter} {template : Template}
    (h : ((carryOut plan datacenter template).exec answer).run before = (.ok (), after)) :
    ∃ created, ((DeployAction.create plan datacenter template).exec answer).run before =
        (.ok (), created) ∧
      ((plan.companions.forM DeployAction.submit : DeployAction Unit).exec answer).run created =
        (.ok (), after) := by
  rw [carryOut] at h
  obtain ⟨_, created, hcreated, h⟩ := Operation.exec_bind_eq_ok h
  rcases Operation.exec_tryCatch_eq_ok h with hsubmitted | ⟨failure, between, -, hremedy⟩
  · exact ⟨created, hcreated, hsubmitted⟩
  · obtain ⟨_, abandoned, -, hthrow⟩ := Operation.exec_bind_eq_ok hremedy
    cases hthrow

/-- **The steps of a deployment that succeeds**: its template is fetched, its machine is created,
and all companions are submitted. -/
theorem exec_deploy_eq_ok {source : RandomSource σ} {state : σ} {request : DeployRequest}
    {datacenter : Datacenter} {deployed : Deployed}
    (h : ((deploy source state request datacenter).exec answer).run before =
      (.ok deployed, after)) :
    ∃ raw template materialized fetched created,
      Admits source state request datacenter raw template materialized ∧
      deployed = ⟨Plan.requestedMachine template request, datacenter.workloadNamespace, template,
        materialized.companions⟩ ∧
      ((DeployAction.fetch request.templateId).exec answer).run before = (.ok raw, fetched) ∧
      ((DeployAction.create ⟨Plan.requestedMachine template request, materialized.base,
        materialized.companions⟩ datacenter template).exec answer).run fetched =
          (.ok (), created) ∧
      ((materialized.companions.forM DeployAction.submit : DeployAction Unit).exec answer).run
        created = (.ok (), after) := by
  rw [deploy] at h
  obtain ⟨_, -, h⟩ := Operation.exec_ofExcept_bind_eq_ok h
  obtain ⟨raw, fetched, hfetched, h⟩ := Operation.exec_bind_eq_ok h
  obtain ⟨template, hraw, h⟩ := Operation.exec_ofExcept_bind_eq_ok h
  obtain ⟨plan, hplan, h⟩ := Operation.exec_ofExcept_bind_eq_ok h
  obtain ⟨_, last, hdone, h⟩ := Operation.exec_bind_eq_ok h
  obtain ⟨hdeployed, rfl⟩ := Prod.mk.inj h
  cases hdeployed
  obtain ⟨hceilings, materialized, hmaterialized, rfl⟩ :=
    (Plan.ofRequest_eq_ok_iff _ _ _ _).mp hplan
  obtain ⟨created, hcreated, hsubmitted⟩ := exec_carryOut_eq_ok hdone
  exact ⟨raw, template, materialized, fetched, created, ⟨hraw, hceilings, hmaterialized⟩, rfl,
    hfetched, hcreated, hsubmitted⟩

end Steps

/-! ## What the steps create -/

section Creations

variable {platform : Platform} {versions : StorageVersions} {store changed : Store}

/-- **A machine is created** where there was none. -/
theorem Cluster.exec_create_eq_ok {settings : ClusterSettings} {machine : Machine}
    {datacenter : Datacenter} {template : Template} {base : Option Json}
    (h : ((create settings machine datacenter template base).exec
      (platform.answerIn versions)).run store = (.ok (), changed)) :
    ∃ object, IsCreated platform versions machines datacenter.workloadNamespace object
        (machineIn versions datacenter.workloadNamespace machine.id) ∧
      store.kept (machineIn versions datacenter.workloadNamespace machine.id) = none ∧
      changed.kept = (store.put (machineIn versions datacenter.workloadNamespace machine.id)
        object).kept := by
  rw [create] at h
  obtain ⟨_, -, h⟩ := Operation.exec_ofExcept_bind_eq_ok h
  cases hobject : object? (Definition.ofBase machine datacenter template base) with
  | none =>
    rw [hobject] at h
    cases h
  | some object =>
    rw [hobject] at h
    obtain ⟨-, rfl, hsettle⟩ := exec_exchangeOr_eq_ok h rfl
    have hread := (settle_eq_ok_iff fun trouble => by split <;> simp).mp hsettle
    obtain ⟨location, hlocation, hfresh, hkept⟩ := exists_isCreated hread
    have hname := name_object? hobject (Definition.name_ofBase base)
    have hplace : location = machineIn versions datacenter.workloadNamespace machine.id := by
      rw [hlocation.eq_place, ← Option.some.inj (hname.symm.trans hlocation.name)]
      rfl
    exact ⟨object, hplace ▸ hlocation, hplace ▸ hfresh, hplace ▸ hkept⟩

/-- **The object of a companion**, created on a cluster. -/
structure Manifest.IsMade (manifest : Manifest) (platform : Platform) (versions : StorageVersions)
    (location : Location) (object : Json) : Prop where
  created : IsCreated platform versions manifest.resource manifest.ns object location
  eq_object : object? manifest.object = some object

/-- **A companion is created** where there was no such object. -/
theorem exec_createCompanion_eq_ok {timeout : Duration} {manifest : Manifest}
    (h : ((Surroundings.createCompanion timeout manifest).exec
      (platform.answerIn versions)).run store = (.ok (), changed)) :
    ∃ location object, manifest.IsMade platform versions location object ∧
      store.kept location = none ∧ changed.kept = (store.put location object).kept := by
  rw [Surroundings.createCompanion] at h
  cases hobject : object? manifest.object with
  | none =>
    simp only [hobject] at h
    cases h
  | some object =>
    simp only [hobject] at h
    obtain ⟨-, rfl, hsettle⟩ := exec_exchangeOr_eq_ok h rfl
    have hread := (settle_eq_ok_iff fun trouble => by simp).mp hsettle
    obtain ⟨location, hlocation, hfresh, hkept⟩ := exists_isCreated hread
    exact ⟨location, object, ⟨hlocation, hobject⟩, hfresh, hkept⟩

end Creations

/-! ## Footprints -/

open Cluster

/-- **The footprint of a deployment** on a cluster: its machine and its companions, each where
nothing was kept before. -/
structure Footprint (platform : Platform) (versions : StorageVersions) (deployed : Deployed)
    (before after : Store) : Prop where
  serves : platform.serves (machines.stored versions) = true
  machine : before.kept (machineIn versions deployed.ns deployed.machine.id) = none ∧
    (after.kept (machineIn versions deployed.ns deployed.machine.id)).isSome
  grown : Grown (fun location object =>
    location = machineIn versions deployed.ns deployed.machine.id ∨
      ∃ companion ∈ deployed.companions, companion.IsMade platform versions location object)
    before after
  /-- The label and the namespace of a companion are those of the machine. -/
  owned : ∀ companion ∈ deployed.companions, companion.ns = deployed.ns ∧
    IsOwned deployed.machine.id companion.object
  companion : ∀ companion ∈ deployed.companions, ∃ location object,
    companion.IsMade platform versions location object ∧
      location ≠ machineIn versions deployed.ns deployed.machine.id ∧
      before.kept location = none ∧ after.kept location = some object

section Footprints

variable {surroundings : Surroundings} {settings : ClusterSettings} {timeout : Duration}
  {platform : Platform} {versions : StorageVersions} {now : String} {memory last : Memory}
  {store changed : Store}

/-- The machine of a deployment is created in the cluster. -/
theorem exec_createAction_eq_ok {plan : Plan} {datacenter : Datacenter} {template : Template}
    {before after : Memory × Store} (hbackend : surroundings.backend = .cluster settings)
    (h : ((DeployAction.create plan datacenter template).exec
      (surroundings.answerOn platform versions now)).run before = (.ok (), after)) :
    ∃ object, IsCreated platform versions machines datacenter.workloadNamespace object
        (machineIn versions datacenter.workloadNamespace plan.machine.id) ∧
      before.2.kept (machineIn versions datacenter.workloadNamespace plan.machine.id) = none ∧
      after.2.kept = (before.2.put
        (machineIn versions datacenter.workloadNamespace plan.machine.id) object).kept := by
  obtain ⟨memory, store⟩ := before
  have hlift : surroundings.answer now (.call (.create plan.machine datacenter template
      plan.base)) =
      StateT.lift (create settings plan.machine datacenter template plan.base).run := by
    simp only [Surroundings.answer, hbackend, Surroundings.ofCall, Cluster.answer]
  have hanswer : (surroundings.answerOn platform versions now (.call (.create plan.machine
      datacenter template plan.base))).run (memory, store) = (.ok (), after) := h
  rw [Surroundings.answerOn_of_lift hlift] at hanswer
  obtain ⟨hreply, rfl⟩ := Prod.mk.inj hanswer
  exact exec_create_eq_ok (Prod.ext hreply rfl)

/-- A companion of a deployment is created in the cluster. -/
theorem exec_submitAction_eq_ok {companion : Manifest} {before after : Memory × Store}
    (hsink : surroundings.sink = .cluster timeout)
    (h : ((DeployAction.submit companion).exec
      (surroundings.answerOn platform versions now)).run before = (.ok (), after)) :
    ∃ location object, companion.IsMade platform versions location object ∧
      before.2.kept location = none ∧
      after.2.kept = (before.2.put location object).kept := by
  obtain ⟨memory, store⟩ := before
  have hlift : surroundings.answer now (.submit companion) =
      StateT.lift (Surroundings.createCompanion timeout companion).run := by
    simp only [Surroundings.answer, hsink, Surroundings.submit]
  have hanswer := exec_submit_eq_ok h
  rw [Surroundings.answerOn_of_lift hlift] at hanswer
  obtain ⟨hreply, rfl⟩ := Prod.mk.inj hanswer
  exact exec_createCompanion_eq_ok (Prod.ext hreply rfl)

/-- **Companions that are all accepted** are all created, and nothing else is. -/
theorem grown_of_submissions {companions : List Manifest} {before after : Memory × Store}
    (hsink : surroundings.sink = .cluster timeout)
    (h : ((companions.forM DeployAction.submit : DeployAction Unit).exec
      (surroundings.answerOn platform versions now)).run before = (.ok (), after)) :
    Grown (fun location object => ∃ companion ∈ companions,
        companion.IsMade platform versions location object) before.2 after.2 ∧
      ∀ companion ∈ companions, ∃ location object,
        companion.IsMade platform versions location object ∧
          before.2.kept location = none ∧ after.2.kept location = some object := by
  obtain ⟨hgrown, hall⟩ := Operation.exec_forM_eq_ok
    (fun one two : Memory × Store => Grown (fun location object =>
      ∃ companion ∈ companions, companion.IsMade platform versions location object) one.2 two.2)
    (fun _ => .of_kept_eq rfl) (fun hfirst hsecond => hfirst.trans hsecond)
    (fun companion hcompanion {_ _} hsubmit => by
      obtain ⟨location, object, hmade, hfresh, hput⟩ := exec_submitAction_eq_ok hsink hsubmit
      exact .of_put hfresh hput ⟨companion, hcompanion, hmade⟩) h
  refine ⟨hgrown, fun companion hcompanion => ?_⟩
  -- Whatever is added before and after a companion leaves it alone.
  obtain ⟨one, two, hone, hsubmit, htwo⟩ := hall companion hcompanion
  obtain ⟨location, object, hmade, hfresh, hput⟩ := exec_submitAction_eq_ok hsink hsubmit
  refine ⟨location, object, hmade, hone.kept_eq_none hfresh, htwo.keeps _ _ ?_⟩
  rw [hput, Store.kept_put, if_pos rfl]

/-- The companions of a template belong to the machine. -/
theorem Admits.isOwned_of_mem_companions {σ : Type} {source : RandomSource σ} {state : σ}
    {request : DeployRequest} {datacenter : Datacenter} {raw : Json} {template : Template}
    {materialized : Materialized} {companion : Manifest}
    (h : Admits source state request datacenter raw template materialized)
    (hmem : companion ∈ materialized.companions) :
    companion.ns = datacenter.workloadNamespace ∧
      IsOwned (Plan.requestedMachine template request).id companion.object :=
  Materialized.manifest_of_mem h.materialized_eq (List.mem_of_mem_filter hmem)

/-- **A deployment that succeeds leaves its footprint**, and nothing else. -/
theorem footprint_of_deploy {σ : Type} {source : RandomSource σ} {state : σ}
    {request : DeployRequest} {datacenter : Datacenter} {deployed : Deployed}
    (hbackend : surroundings.backend = .cluster settings)
    (hsink : surroundings.sink = .cluster timeout)
    (h : (surroundings.carryOn platform versions now (deploy source state request datacenter)
      memory).run store = ((.ok deployed, last), changed)) :
    Footprint platform versions deployed store changed := by
  have hrun : ((deploy source state request datacenter).exec
      (surroundings.answerOn platform versions now)).run (memory, store) =
        (.ok deployed, last, changed) := by
    rw [Surroundings.carryOn_run] at h
    rcases hexec : ((deploy source state request datacenter).exec
      (surroundings.answerOn platform versions now)).run (memory, store) with ⟨_, _, _⟩
    rw [hexec] at h
    cases h
    rfl
  obtain ⟨raw, template, materialized, fetched, created, hadmits, rfl, hfetch, hcreate,
    hsubmit⟩ := exec_deploy_eq_ok hrun
  -- Fetching changes nothing; then the machine is created, and then the companions.
  have hfetched : fetched.2.kept = store.kept := by
    have hkept := kept_fetch surroundings platform versions now request.templateId
      (memory, store)
    rwa [hfetch] at hkept
  obtain ⟨object, hmachine, hfresh, hput⟩ := exec_createAction_eq_ok hbackend hcreate
  obtain ⟨hgrown, hall⟩ := grown_of_submissions hsink hsubmit
  have hfirst : Grown (fun location _ => location = machineIn versions
      datacenter.workloadNamespace (Plan.requestedMachine template request).id) store created.2 :=
    (Grown.of_kept_eq hfetched).trans (Grown.of_put hfresh hput rfl)
  have hcreated : created.2.kept (machineIn versions datacenter.workloadNamespace
      (Plan.requestedMachine template request).id) = some object := by
    rw [hput, Store.kept_put, if_pos rfl]
  refine ⟨hmachine.serves, ⟨hfetched ▸ hfresh, Option.isSome_of_mem (hgrown.keeps _ _ hcreated)⟩,
    (hfirst.mono fun _ _ => .inl).trans (hgrown.mono fun _ _ => .inr),
    fun companion hmem => hadmits.isOwned_of_mem_companions hmem, fun companion hmem => ?_⟩
  obtain ⟨location, found, hmade, hnone, hkept⟩ := hall companion hmem
  refine ⟨location, found, hmade, ?_, hfirst.kept_eq_none hnone, hkept⟩
  -- The machine is there already when the companion is created.
  rintro rfl
  rw [hcreated] at hnone
  cases hnone

end Footprints

end VmProvisioning
