import Mathlib.Data.List.Dedup
import VmProvisioning.Proofs.Cluster.Operations
import VmProvisioning.Proofs.Text.Pieces

/-!
# Sweeping a cluster

After the machine itself, a deletion removes the labelled objects of a fixed list of kinds. On a
cluster that serves a resource under several API versions, the objects of a resource are kept under
one of them, and a sweep finds whatever is kept where the objects of its kinds are.

## Main definitions

* `StorageVersions`, `Resource.stored`: under which API version objects are kept
* `Platform.answerIn`: a cluster that serves several API versions
* `Api.Request.isReading`, `IsSwept`: requests that only read, and the requests of a sweep
* `Pruned`: a store from which only objects of swept kinds are gone
* `Cluster.IsOwned`: labelled objects
* `Store.IsAddressable`: a store whose objects can be found and deleted
* `Cluster.machineIn`, `Cluster.deleteMachine`: the machine itself, and its deletion

## Main results

* `kept_exec_of_asks_reading`: an operation that only reads changes no objects
* `pruned_of_isSwept`, `pruned_of_sweep`: what a sweep does to a store
* `kept_of_sweep_eq_ok`: a sweep that succeeds has removed the labelled objects of its kinds
* `exec_sweep_of_isAddressable`: a sweep succeeds when the labelled objects can be addressed
-/

namespace VmProvisioning

open Api DnsLabel

/-! ## API versions -/

/-- **Under which API version a cluster keeps objects**, by the API version and the plural name of
their resource in a request. -/
abbrev StorageVersions :=
  String → String → String

/-- The resource under which the objects of a resource are kept. The kind is not part of a path, so
that a cluster cannot tell it. -/
def Resource.stored (resource : Resource) (versions : StorageVersions) : Resource :=
  ⟨versions resource.apiVersion resource.plural, resource.plural, resource.plural⟩

/-- A request on another resource in place of its own. -/
def Api.Request.mapResource (change : Resource → Resource) : Request → Request
  | version => version
  | get resource ns name => get (change resource) ns name
  | list resource ns selector => list (change resource) ns selector
  | create resource ns object => create (change resource) ns object
  | merge resource ns name patch => merge (change resource) ns name patch
  | apply resource ns name manager object => apply (change resource) ns name manager object
  | delete resource ns name inBackground => delete (change resource) ns name inBackground

/-- Whether a request only reads. -/
def Api.Request.isReading : Request → Bool
  | version | get .. | list .. => true
  | _ => false

/-- **What a cluster that serves several API versions answers**, and its objects afterwards. -/
def Platform.answerIn (platform : Platform) (versions : StorageVersions) (request : Request) :
    StateM Store Answer :=
  platform.answer (request.mapResource (·.stored versions))

section Answers

variable {platform : Platform} {versions : StorageVersions} {store : Store} {request : Request}
  {resource : Resource}

theorem Platform.answerIn_of_serves
    (hresource : (request.mapResource (·.stored versions)).resource? = some resource)
    (hserves : platform.serves resource = true) :
    (platform.answerIn versions request).run store =
      ((platform.serve store (request.mapResource (·.stored versions))).1,
        (platform.serve store (request.mapResource (·.stored versions))).2.tick) :=
  answer_of_serves hresource hserves

theorem Platform.answerIn_of_not_serves
    (hresource : (request.mapResource (·.stored versions)).resource? = some resource)
    (hserves : platform.serves resource = false) :
    (platform.answerIn versions request).run store = (.unserved, store.tick) :=
  answer_of_not_serves hresource hserves

/-- **Reading changes no objects.** -/
theorem Platform.kept_answerIn_of_isReading (h : request.isReading = true) :
    ((platform.answerIn versions request).run store).2.kept = store.kept := by
  cases request with
  | version => rfl
  | get resource ns name =>
    cases hserves : platform.serves (resource.stored versions) with
    | true =>
      rw [answerIn_of_serves rfl hserves]
      rfl
    | false =>
      rw [answerIn_of_not_serves rfl hserves]
      rfl
  | list resource ns selector =>
    cases hserves : platform.serves (resource.stored versions) with
    | true =>
      rw [answerIn_of_serves rfl hserves]
      rfl
    | false =>
      rw [answerIn_of_not_serves rfl hserves]
      rfl
  | _ => cases h

/-- An operation that only reads changes no objects. -/
theorem Api.kept_exec_of_asks_reading {α : Type} {operation : Action α} {IsResult : α → Prop}
    (h : operation.Asks (fun request => request.isReading = true) IsResult) (store : Store) :
    ((operation.exec (platform.answerIn versions)).run store).2.kept = store.kept :=
  h.exec_preserves (fun changed : Store => changed.kept = store.kept)
    (fun _ hreading _ hstate => (Platform.kept_answerIn_of_isReading hreading).trans hstate) rfl

variable {ns name : String} {inBackground : Bool}

/-- Deleting an object changes no other one. -/
theorem Platform.kept_answerIn_delete_of_ne {location : Location}
    (h : location ≠ (resource.stored versions).place ns name) :
    ((platform.answerIn versions (.delete resource ns name inBackground)).run store).2.kept
      location = store.kept location := by
  cases hserves : platform.serves (resource.stored versions) with
  | true =>
    rw [answerIn_of_serves rfl hserves]
    simp only [Request.mapResource, serve]
    cases store.shown platform ((resource.stored versions).place ns name) with
    | none => rfl
    | some object => rw [Store.kept_tick, Store.kept_remove, if_neg h]
  | false =>
    rw [answerIn_of_not_serves rfl hserves]
    rfl

/-- What is not shown is not kept. -/
theorem Store.kept_of_not_shown {location : Location}
    (h : store.shown platform location = none) : store.kept location = none := by
  cases hkept : store.kept location with
  | none => rfl
  | some object =>
    simp only [shown, hkept] at h
    split at h
    · cases h
    · cases h

/-- **A deleted object is gone**, on a cluster that has its resource. -/
theorem Platform.kept_answerIn_delete
    (hserves : platform.serves (resource.stored versions) = true) :
    ((platform.answerIn versions (.delete resource ns name inBackground)).run store).2.kept
      ((resource.stored versions).place ns name) = none := by
  rw [answerIn_of_serves rfl hserves]
  simp only [Request.mapResource, serve]
  cases hshown : store.shown platform ((resource.stored versions).place ns name) with
  | none =>
    have hkept : store.kept ((resource.stored versions).place ns name) = none :=
      Store.kept_of_not_shown hshown
    exact hkept
  | some object => rw [Store.kept_tick, Store.kept_remove, if_pos rfl]

/-- Deleting an object brings back none. -/
theorem Platform.kept_of_kept_answerIn_delete {location : Location} {object : Json}
    (h : ((platform.answerIn versions (.delete resource ns name inBackground)).run store).2.kept
      location = some object) : store.kept location = some object := by
  by_cases heq : location = (resource.stored versions).place ns name
  · cases hserves : platform.serves (resource.stored versions) with
    | true =>
      rw [heq, kept_answerIn_delete hserves] at h
      cases h
    | false =>
      rw [answerIn_of_not_serves rfl hserves] at h
      exact h
  · rwa [kept_answerIn_delete_of_ne heq] at h

end Answers

/-! ## What a sweep leaves alone -/

/-- **The requests of a sweep.** -/
inductive IsSwept (ns : String) : Request → Prop
  | list (resource : Resource) (selector : Option String) : IsSwept ns (.list resource ns selector)
  | delete {resource : Resource} (name : String) (h : resource ∈ Cluster.ownedKinds) :
    IsSwept ns (.delete resource ns name true)

/-- A location where the objects of a kind are kept that is deleted with a machine. -/
def Location.IsOfOwnedKind (versions : StorageVersions) (location : Location) : Prop :=
  ∃ resource ∈ Cluster.ownedKinds, location.isOf (resource.stored versions) = true

/-- **Only objects of swept kinds are gone** from a store. -/
structure Pruned (versions : StorageVersions) (store changed : Store) : Prop where
  kept_of_kept : ∀ location object, changed.kept location = some object →
    store.kept location = some object
  kept_eq : ∀ location, ¬location.IsOfOwnedKind versions →
    changed.kept location = store.kept location

namespace Pruned

variable {versions : StorageVersions} {one two three : Store}

theorem of_kept_eq (h : two.kept = one.kept) : Pruned versions one two where
  kept_of_kept _ _ hkept := h ▸ hkept
  kept_eq location _ := congrFun h location

theorem refl (store : Store) : Pruned versions store store :=
  of_kept_eq rfl

theorem trans (hfirst : Pruned versions one two) (hsecond : Pruned versions two three) :
    Pruned versions one three where
  kept_of_kept _ _ h := hfirst.kept_of_kept _ _ (hsecond.kept_of_kept _ _ h)
  kept_eq _ h := (hsecond.kept_eq _ h).trans (hfirst.kept_eq _ h)

theorem kept_eq_none (h : Pruned versions one two) {location : Location}
    (hnone : one.kept location = none) : two.kept location = none :=
  Option.eq_none_iff_forall_ne_some.mpr fun object hobject => by
    simpa [hnone] using h.kept_of_kept _ _ hobject

end Pruned

theorem isOf_place (resource : Resource) (ns name : String) :
    (resource.place ns name).isOf resource = true := by
  simp [Location.isOf, Resource.place]

/-- **What a request of a sweep does to a store.** -/
theorem pruned_of_isSwept {platform : Platform} {versions : StorageVersions} {ns : String}
    {request : Request} (h : IsSwept ns request) (store : Store) :
    Pruned versions store ((platform.answerIn versions request).run store).2 := by
  cases h with
  | list resource selector => exact .of_kept_eq (Platform.kept_answerIn_of_isReading rfl)
  | @delete resource name hresource =>
    refine ⟨fun _ _ => Platform.kept_of_kept_answerIn_delete, fun location hlocation => ?_⟩
    refine Platform.kept_answerIn_delete_of_ne ?_
    rintro rfl
    exact hlocation ⟨resource, hresource, isOf_place _ _ _⟩

namespace Cluster

variable {settings : ClusterSettings} {platform : Platform} {versions : StorageVersions}
  {store changed final : Store} {id ns name : String} {resource : Resource}

theorem asks_ownedNames {IsAsked : Request → Prop}
    (h : IsAsked (.list resource ns (some (Ownership.selector id)))) :
    (ownedNames settings resource id ns).Asks IsAsked fun _ => True := by
  rw [ownedNames]
  exact Operation.Asks.bind (asks_exchangeOr h) fun _ _ => Operation.asks_pure trivial

theorem asks_deleteOwned {IsAsked : Request → Prop} (h : IsAsked (.delete resource ns name true)) :
    (deleteOwned settings resource ns name).Asks IsAsked fun _ => True := by
  rw [deleteOwned]
  exact asks_exchangeOr h

/-- **A sweep** lists objects, and deletes those of its kinds only. -/
theorem asks_sweep : (sweep settings id ns).Asks (IsSwept ns) fun _ => True := by
  rw [sweep]
  have hlists : (ownedKinds.mapM fun resource => do
      return (resource, ← ownedNames settings resource id ns) :
      Action (List (Resource × List String))).Asks (IsSwept ns)
      fun found => ∀ entry ∈ found, entry.1 ∈ ownedKinds :=
    Operation.asks_mapM fun resource hresource =>
      Operation.Asks.bind (asks_ownedNames (.list resource _)) fun _ _ =>
        Operation.asks_pure hresource
  refine hlists.bind fun found hfound => Operation.asks_forM fun turn hturn => ?_
  obtain ⟨names, hnames, -⟩ := mem_inTurns_iff.mp hturn
  exact asks_deleteOwned (.delete turn.2 (hfound _ hnames))

/-! ## What a sweep finds -/

/-- **An object that was made for a machine**, by its label. -/
def IsOwned (id : String) (object : Json) : Prop :=
  object.textAt? ["metadata", "labels", Ownership.machineKey] = some id

theorem isSelected_selector_iff {object : Json} :
    Store.isSelected (some (Ownership.selector id)) object = true ↔ IsOwned id object := by
  have hcut : Text.cut? ['='] (Ownership.selector id).toList =
      some (Ownership.machineKey.toList, id.toList) := by
    have htext : (Ownership.selector id).toList =
        Ownership.machineKey.toList ++ '=' :: id.toList := by
      simp [Ownership.selector]
    rw [htext]
    exact Text.cut?_append_cons (by decide)
  simp [Store.isSelected, hcut, IsOwned]

/-- Objects of the kinds that are deleted with a machine are shown as they are kept. -/
theorem shown_eq_kept {location : Location} (hresource : resource ∈ ownedKinds)
    (hlocation : location.isOf (resource.stored versions) = true) :
    store.shown platform location = store.kept location := by
  obtain ⟨-, hplural⟩ := Bool.and_eq_true_iff.mp hlocation
  obtain ⟨hmachine, hinstance⟩ :=
    isOf_eq_false_of_mem_ownedKinds hresource (beq_iff_eq.mp hplural)
  cases hkept : store.kept location with
  | none => exact Store.shown_of_not_kept hkept hinstance
  | some object => simp [Store.shown, hkept, hmachine]

/-- **What is listed** is what is kept and selected. -/
theorem mem_listed_iff {object : Json} (hresource : resource ∈ ownedKinds) :
    object ∈ store.listed platform (resource.stored versions) ns (some (Ownership.selector id)) ↔
      ∃ name, store.kept ((resource.stored versions).place ns name) = some object ∧
        IsOwned id object := by
  simp only [Store.listed, List.mem_filter, List.mem_filterMap, isSelected_selector_iff,
    Bool.and_eq_true, beq_iff_eq]
  constructor
  · rintro ⟨⟨location, ⟨-, hlocation, rfl⟩, hshown⟩, howned⟩
    rw [shown_eq_kept hresource hlocation] at hshown
    have hplace : location = (resource.stored versions).place location.ns location.name := by
      simp only [Location.isOf, Bool.and_eq_true, beq_iff_eq] at hlocation
      rw [Resource.place, ← hlocation.1, ← hlocation.2]
    exact ⟨location.name, hplace ▸ hshown, howned⟩
  · rintro ⟨name, hkept, howned⟩
    refine ⟨⟨(resource.stored versions).place ns name, ⟨?_, isOf_place _ _ _, rfl⟩, ?_⟩, howned⟩
    · have hmem : (resource.stored versions).place ns name ∈ store.objects.keys := by
        rw [← AList.mem_keys, ← AList.lookup_isSome]
        exact Option.isSome_of_mem hkept
      exact List.mem_dedup.mpr (List.mem_flatMap.mpr ⟨_, hmem, List.mem_cons_self⟩)
    · rw [shown_eq_kept hresource (isOf_place _ _ _), hkept]

theorem read_list (resource : Resource) (objects : List Json) :
    (Answer.list resource objects).read objects? =
      match objects.mapM object? with
      | some normals => .ok normals
      | none => .error .unreadable := by
  have hobjects : objects? (.ofMembers [("apiVersion", .text resource.apiVersion),
      ("kind", .text (resource.kind ++ "List")), ("metadata", .object []),
      ("items", .array objects)]) = objects.mapM object? := by
    have hmetadata : (Schema.listMetadata.read? (.object [])).isSome := by decide
    obtain ⟨metadata, hmetadata⟩ := Option.isSome_iff_exists.mp hmetadata
    simp [objects?, Json.ofMembers, metadata?, Fields.get?_ofList, Fields.get?, hmetadata,
      Json.list?]
  simp only [Answer.list, Answer.read, Body.json?, Option.bind_some, hobjects]
  rw [if_neg (by decide)]
  cases objects.mapM object? with
  | none => rfl
  | some normals => rfl

/-- The objects that are read from a list are the normal forms of its items. -/
theorem mapM_eq_some_iff {α β : Type} {read : α → Option β} {elements : List α}
    {values : List β} :
    elements.mapM read = some values ↔ elements.map read = values.map some := by
  induction elements generalizing values with
  | nil => cases values <;> simp
  | cons element elements ih =>
    cases values with
    | nil => simp [List.mapM_cons, Option.bind_eq_some_iff]
    | cons value values => simp [List.mapM_cons, Option.bind_eq_some_iff, ih]

theorem exists_mapM_eq_some {α β : Type} {read : α → Option β} {elements : List α}
    (h : ∀ element ∈ elements, (read element).isSome) :
    ∃ values, elements.mapM read = some values := by
  refine ⟨elements.filterMap read, mapM_eq_some_iff.mpr ?_⟩
  induction elements with
  | nil => rfl
  | cons element elements ih =>
    obtain ⟨helement, hrest⟩ := List.forall_mem_cons.mp h
    obtain ⟨value, hvalue⟩ := Option.isSome_iff_exists.mp helement
    simp [hvalue, ih hrest]

theorem isSendable_listOwned (id : String) (hns : IsLabelText ns)
    (hresource : resource ∈ ownedKinds) :
    (Request.list resource ns (some (Ownership.selector id))).isSendable = true := by
  rw [isSendable_list, any_isForbidden_collectionPath (ownedKinds_path resource hresource) hns]
  rfl

/-- **The names that are found** when a kind is listed that the cluster has. -/
theorem exec_ownedNames_of_serves
    (hsendable : (Request.list resource ns (some (Ownership.selector id))).isSendable = true)
    (hserves : platform.serves (resource.stored versions) = true) :
    ((ownedNames settings resource id ns).exec (platform.answerIn versions)).run store =
      (match (store.listed platform (resource.stored versions) ns
          (some (Ownership.selector id))).mapM object? with
        | some normals => .ok (normals.filterMap (Json.textAt? · ["metadata", "name"]))
        | none => .error .unreadable, store.tick) := by
  rw [ownedNames, Operation.exec_bind, exec_exchangeOr _ _ hsendable,
    Platform.answerIn_of_serves rfl hserves]
  simp only [Request.mapResource, Platform.serve, read_list]
  cases (store.listed platform (resource.stored versions) ns
    (some (Ownership.selector id))).mapM object? with
  | none => rfl
  | some normals => rfl

theorem exec_ownedNames_of_not_serves
    (hsendable : (Request.list resource ns (some (Ownership.selector id))).isSendable = true)
    (hserves : platform.serves (resource.stored versions) = false) :
    ((ownedNames settings resource id ns).exec (platform.answerIn versions)).run store =
      (.ok [], store.tick) := by
  rw [ownedNames, Operation.exec_bind, exec_exchangeOr _ _ hsendable,
    Platform.answerIn_of_not_serves rfl hserves]
  rfl

/-- A labelled object is found by its name. -/
theorem mem_of_ownedNames_eq_ok {object : Json} {names : List String}
    (hresource : resource ∈ ownedKinds)
    (hserves : platform.serves (resource.stored versions) = true)
    (h : ((ownedNames settings resource id ns).exec (platform.answerIn versions)).run store =
      (.ok names, changed))
    (hkept : store.kept ((resource.stored versions).place ns name) = some object)
    (howned : IsOwned id object) (hname : object.textAt? ["metadata", "name"] = some name) :
    name ∈ names := by
  have hsendable : (Request.list resource ns (some (Ownership.selector id))).isSendable = true := by
    rw [ownedNames] at h
    obtain ⟨objects, listed, hlist, -⟩ := Operation.exec_bind_eq_ok h
    exact (exec_exchangeOr_eq_ok hlist rfl).1
  rw [exec_ownedNames_of_serves hsendable hserves] at h
  have hlisted : object ∈ store.listed platform (resource.stored versions) ns
      (some (Ownership.selector id)) := (mem_listed_iff hresource).mpr ⟨name, hkept, howned⟩
  split at h
  · next normals hnormals =>
    obtain ⟨hnames, -⟩ := Prod.mk.inj h
    cases hnames
    have hmem : object? object ∈ normals.map some :=
      mapM_eq_some_iff.mp hnormals ▸ List.mem_map_of_mem hlisted
    obtain ⟨normal, hnormal, heq⟩ := List.mem_map.mp hmem
    exact List.mem_filterMap.mpr ⟨normal, hnormal, name_object? heq.symm hname⟩
  · cases h

theorem kept_of_deleteOwned_eq_ok (hserves : platform.serves (resource.stored versions) = true)
    (h : ((deleteOwned settings resource ns name).exec (platform.answerIn versions)).run store =
      (.ok (), changed)) :
    changed.kept ((resource.stored versions).place ns name) = none := by
  obtain ⟨-, rfl, -⟩ := exec_exchangeOr_eq_ok h rfl
  exact Platform.kept_answerIn_delete hserves

/-- Deleting an object whose name may stand in a path succeeds, whether it is there or not. -/
theorem exec_deleteOwned (settings : ClusterSettings) (platform : Platform)
    (versions : StorageVersions) (store : Store) (hns : IsLabelText ns)
    (hresource : resource ∈ ownedKinds) (hname : IsSegment name) :
    ∃ changed, ((deleteOwned settings resource ns name).exec (platform.answerIn versions)).run
      store = (.ok (), changed) := by
  have hsendable : (Request.delete resource ns name true).isSendable = true :=
    isSendable_delete (ownedKinds_path resource hresource) hns hname
  rw [deleteOwned, exec_exchangeOr _ _ hsendable]
  cases hserves : platform.serves (resource.stored versions) with
  | true =>
    rw [Platform.answerIn_of_serves rfl hserves]
    simp only [Request.mapResource, Platform.serve]
    cases store.shown platform ((resource.stored versions).place ns name) with
    | none =>
      simp only [Answer.missing]
      rw [read_refuse (by decide) (by decide)]
      exact ⟨_, rfl⟩
    | some object => exact ⟨_, rfl⟩
  | false =>
    rw [Platform.answerIn_of_not_serves rfl hserves]
    exact ⟨_, rfl⟩

/-! ## Whole sweeps -/

/-- **A sweep removes objects of its kinds only**, whether it succeeds or not, when its requests
do. -/
theorem pruned_of_sweep {answer : Request → StateM Store Answer} {result : Except Failure Unit}
    (hanswer : ∀ request, IsSwept ns request → ∀ state,
      Pruned versions state ((answer request).run state).2)
    (h : ((sweep settings id ns).exec answer).run store = (result, final)) :
    Pruned versions store final := by
  have hpruned : Pruned versions store (((sweep settings id ns).exec answer).run store).2 :=
    asks_sweep.exec_preserves (Pruned versions store)
      (fun request hswept state hstate => hstate.trans (hanswer request hswept state))
      (.refl store)
  rwa [h] at hpruned

/-- Asking for the names of objects changes none of them. -/
theorem kept_ownedNames :
    ((((do return (resource, ← ownedNames settings resource id ns)) :
      Action (Resource × List String)).exec (platform.answerIn versions)).run store).2.kept =
      store.kept := by
  have hasks : ((do return (resource, ← ownedNames settings resource id ns)) :
      Action (Resource × List String)).Asks (fun request => request.isReading = true)
      fun _ => True :=
    Operation.Asks.bind (asks_ownedNames rfl) fun _ _ => Operation.asks_pure trivial
  exact kept_exec_of_asks_reading hasks store

/-- Deleting an object brings back none. -/
theorem kept_deleteOwned {location : Location} (h : store.kept location = none) :
    (((deleteOwned settings resource ns name).exec (platform.answerIn versions)).run store).2.kept
      location = none := by
  refine (asks_deleteOwned rfl : (deleteOwned settings resource ns name).Asks
    (· = .delete resource ns name true) _).exec_preserves
    (fun changed : Store => changed.kept location = none) ?_ h
  rintro _ rfl state hstate
  refine Option.eq_none_iff_forall_ne_some.mpr fun object hobject => ?_
  simpa [hstate] using Platform.kept_of_kept_answerIn_delete hobject

/-- **A sweep that succeeds has removed the labelled objects of its kinds**, where they are kept
under their own names. -/
theorem kept_of_sweep_eq_ok {object : Json} (hresource : resource ∈ ownedKinds)
    (hserves : platform.serves (resource.stored versions) = true)
    (h : ((sweep settings id ns).exec (platform.answerIn versions)).run store = (.ok (), final))
    (hkept : store.kept ((resource.stored versions).place ns name) = some object)
    (howned : IsOwned id object) (hname : object.textAt? ["metadata", "name"] = some name) :
    final.kept ((resource.stored versions).place ns name) = none := by
  rw [sweep] at h
  obtain ⟨found, listed, hfound, hdeleted⟩ := Operation.exec_bind_eq_ok h
  -- The object is found, as listing changes nothing.
  have hturn : (resource, name) ∈ inTurns found := by
    obtain ⟨-, hall⟩ := Operation.exec_mapM_eq_ok
      (fun one two : Store => two.kept = one.kept) (fun _ => rfl)
      (fun hfirst hsecond => hsecond.trans hfirst)
      (fun _ _ {_ _ _} hrun => (congrArg (·.2.kept) hrun).symm.trans kept_ownedNames) hfound
    obtain ⟨entry, hentry, before, after, hbefore, hrun⟩ := hall resource hresource
    obtain ⟨names, between, hnames, heq⟩ := Operation.exec_bind_eq_ok hrun
    cases heq
    exact mem_inTurns_iff.mpr ⟨names, hentry,
      mem_of_ownedNames_eq_ok hresource hserves hnames (hbefore ▸ hkept) howned hname⟩
  -- So it is deleted, and nothing after that brings it back.
  obtain ⟨-, hall⟩ := Operation.exec_forM_eq_ok
    (fun one two : Store => ∀ location, one.kept location = none → two.kept location = none)
    (fun _ _ h => h) (fun hfirst hsecond location h => hsecond location (hfirst location h))
    (fun _ _ {_ _} hrun location h => (congrArg (·.2.kept location) hrun).symm.trans
      (kept_deleteOwned h)) hdeleted
  obtain ⟨before, after, -, hrun, hafter⟩ := hall _ hturn
  exact hafter _ (kept_of_deleteOwned_eq_ok hserves hrun)

end Cluster

/-- **The objects of a store can be addressed**: the cluster has their resources, and those of the
kinds that are deleted with a machine can be read, and are kept under their own names, which may
stand in a path. -/
structure Store.IsAddressable (platform : Platform) (versions : StorageVersions)
    (store : Store) : Prop where
  isServed : ∀ location object, store.kept location = some object → ∀ resource : Resource,
    location.isOf (resource.stored versions) = true →
      platform.serves (resource.stored versions) = true
  isReadable : ∀ location object, store.kept location = some object →
    location.IsOfOwnedKind versions → IsReadable object
  name : ∀ location object, store.kept location = some object →
    location.IsOfOwnedKind versions → object.textAt? ["metadata", "name"] = some location.name
  isSegment : ∀ location object, store.kept location = some object →
    location.IsOfOwnedKind versions → IsSegment location.name

namespace Store.IsAddressable

variable {platform : Platform} {versions : StorageVersions} {store : Store}

theorem mono {changed : Store} (h : store.IsAddressable platform versions)
    (hkept : ∀ location object, changed.kept location = some object →
      store.kept location = some object) : changed.IsAddressable platform versions where
  isServed _ _ hobject := h.isServed _ _ (hkept _ _ hobject)
  isReadable _ _ hobject := h.isReadable _ _ (hkept _ _ hobject)
  name _ _ hobject := h.name _ _ (hkept _ _ hobject)
  isSegment _ _ hobject := h.isSegment _ _ (hkept _ _ hobject)

theorem empty (platform : Platform) (versions : StorageVersions) :
    Store.empty.IsAddressable platform versions where
  isServed _ _ h := by simp at h
  isReadable _ _ h := by simp at h
  name _ _ h := by simp at h
  isSegment _ _ h := by simp at h

/-- Objects can be added under their own names. -/
theorem put {place : Location} {added : Json} (h : store.IsAddressable platform versions)
    (hserves : ∀ resource : Resource, place.isOf (resource.stored versions) = true →
      platform.serves (resource.stored versions) = true)
    (hreadable : IsReadable added) (hname : added.textAt? ["metadata", "name"] = some place.name)
    (hsegment : IsSegment place.name) :
    (store.put place added).IsAddressable platform versions where
  isServed location object hkept := by
    rcases eq_or_kept_of_kept_put hkept with ⟨rfl, -⟩ | hkept
    · exact hserves
    · exact h.isServed _ _ hkept
  isReadable location object hkept howned := by
    rcases eq_or_kept_of_kept_put hkept with ⟨-, rfl⟩ | hkept
    · exact hreadable
    · exact h.isReadable _ _ hkept howned
  name location object hkept howned := by
    rcases eq_or_kept_of_kept_put hkept with ⟨rfl, rfl⟩ | hkept
    · exact hname
    · exact h.name _ _ hkept howned
  isSegment location object hkept howned := by
    rcases eq_or_kept_of_kept_put hkept with ⟨rfl, -⟩ | hkept
    · exact hsegment
    · exact h.isSegment _ _ hkept howned

end Store.IsAddressable

namespace Cluster

variable {platform : Platform} {versions : StorageVersions} {store : Store} {id ns : String}
  {resource : Resource}

/-- The names that are found of objects that can be addressed may stand in paths. -/
theorem exec_ownedNames_of_isAddressable (settings : ClusterSettings) (id : String)
    (hns : IsLabelText ns) (hresource : resource ∈ ownedKinds)
    (hstore : store.IsAddressable platform versions) :
    ∃ names, (∀ name ∈ names, IsSegment name) ∧
      ((ownedNames settings resource id ns).exec (platform.answerIn versions)).run store =
        (.ok names, store.tick) := by
  have hsendable := isSendable_listOwned id hns hresource
  cases hserves : platform.serves (resource.stored versions) with
  | false => exact ⟨[], by simp, exec_ownedNames_of_not_serves hsendable hserves⟩
  | true =>
    have howned : ∀ name, ((resource.stored versions).place ns name).IsOfOwnedKind versions :=
      fun name => ⟨resource, hresource, isOf_place _ _ _⟩
    obtain ⟨normals, hnormals⟩ : ∃ normals, (store.listed platform (resource.stored versions) ns
        (some (Ownership.selector id))).mapM object? = some normals := by
      refine exists_mapM_eq_some fun object hobject => ?_
      obtain ⟨name, hkept, -⟩ := (mem_listed_iff hresource).mp hobject
      exact hstore.isReadable _ _ hkept (howned name)
    refine ⟨normals.filterMap (Json.textAt? · ["metadata", "name"]), ?_, by
      rw [exec_ownedNames_of_serves hsendable hserves, hnormals]⟩
    intro found hfound
    obtain ⟨normal, hnormal, hname⟩ := List.mem_filterMap.mp hfound
    -- What is found is the name of an object in the list.
    have hmem : some normal ∈ (store.listed platform (resource.stored versions) ns
        (some (Ownership.selector id))).map object? :=
      mapM_eq_some_iff.mp hnormals ▸ List.mem_map_of_mem hnormal
    obtain ⟨object, hobject, hread⟩ := List.mem_map.mp hmem
    obtain ⟨name, hkept, -⟩ := (mem_listed_iff hresource).mp hobject
    have hsame := name_object? hread (hstore.name _ _ hkept (howned name))
    rw [hname] at hsame
    rw [Option.some.inj hsame]
    exact hstore.isSegment _ _ hkept (howned name)

/-- **A sweep succeeds** when the objects of its kinds can be addressed. -/
theorem exec_sweep_of_isAddressable (settings : ClusterSettings) (id : String)
    (hns : IsLabelText ns) (hstore : store.IsAddressable platform versions) :
    ∃ final, ((sweep settings id ns).exec (platform.answerIn versions)).run store =
      (.ok (), final) := by
  obtain ⟨found, listed, hentries, -, hfound⟩ := Operation.exec_mapM
    (platform.answerIn versions) store
    (fun resource => do return (resource, ← ownedNames settings resource id ns))
    (fun resource entry => entry.1 = resource ∧ ∀ name ∈ entry.2, IsSegment name)
    (Store.IsAddressable platform versions)
    (fun resource hresource state hstate => by
      obtain ⟨names, hnames, hrun⟩ :=
        exec_ownedNames_of_isAddressable settings id hns hresource hstate
      refine ⟨(resource, names), state.tick, ⟨rfl, hnames⟩, hstate.mono fun _ _ h => h, ?_⟩
      rw [Operation.exec_bind_ok hrun]
      rfl) hstore
  have hdelete : ∀ turn ∈ inTurns found, ∀ state, ∃ changed,
      ((deleteOwned settings turn.1 ns turn.2).exec (platform.answerIn versions)).run state =
        (.ok (), changed) := by
    intro turn hturn state
    obtain ⟨names, hnames, hname⟩ := mem_inTurns_iff.mp hturn
    obtain ⟨_, howner, rfl, hsegments⟩ := hentries _ hnames
    exact exec_deleteOwned settings platform versions state hns howner (hsegments turn.2 hname)
  obtain ⟨final, hfinal⟩ : ∃ final, (((inTurns found).forM fun turn =>
      deleteOwned settings turn.1 ns turn.2 : Action Unit).exec
        (platform.answerIn versions)).run listed = (.ok (), final) :=
    Operation.exec_forM _ _ _ _ hdelete
  exact ⟨final, by rw [sweep, Operation.exec_bind_ok hfound]; exact hfinal⟩

/-! ## Deletions -/

/-- Where the object of a machine is kept. -/
def machineIn (versions : StorageVersions) (ns id : String) : Location :=
  (machines.stored versions).place ns id

theorem not_isOfOwnedKind_machineIn : ¬(machineIn versions ns id).IsOfOwnedKind versions := by
  rintro ⟨resource, hresource, hlocation⟩
  have hplural : ∀ resource ∈ ownedKinds, machines.plural ≠ resource.plural := by decide +kernel
  obtain ⟨-, heq⟩ := Bool.and_eq_true_iff.mp hlocation
  exact hplural resource hresource (beq_iff_eq.mp heq)

theorem isOf_instances_machineIn : (machineIn versions ns id).isOf instances = false := by
  have hplural : machines.plural ≠ instances.plural := by decide +kernel
  simp [Location.isOf, machineIn, Resource.place, Resource.stored, hplural]

/-- The request that deletes the machine itself. -/
def deleteMachine (settings : ClusterSettings) (id ns : String) : Action Unit :=
  exchangeFor (concern settings "delete VirtualMachine" machines ns id)
    (.delete machines ns id true) (deletion? object?)

theorem delete_eq (hvalid : validate id = .ok ()) :
    delete settings id ns = (deleteMachine settings id ns >>= fun _ => sweep settings id ns) := by
  rw [delete, hvalid, Operation.ofExcept_ok_bind]
  rfl

end Cluster

end VmProvisioning
