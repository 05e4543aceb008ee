import VmProvisioning.Proofs.Backends
import VmProvisioning.Proofs.Cluster.Sweep

/-!
# Deleting a machine again after a failure

A deletion removes the machine first and its objects after it. When a request fails on the way, the
deletion ends there. Trying again helps as long as the machine is still there: without it the first
request finds nothing, and the objects that are left are not looked for.

## Main definitions

* `RequestFault`, `Platform.answerWith`: a cluster where some requests fail
* `Store.IsCleared`: nothing of a machine is left

## Main results

* `exec_delete_of_kept`, `exec_delete_of_not_kept`: a deletion on a healthy cluster
* `isSome_kept_machine_iff`: which failure leaves the machine there
* `isCleared_after_retry_iff`: when trying again completes a deletion
-/

namespace VmProvisioning

open Api DnsLabel

/-! ## Faults -/

/-- **A fault**: what comes back for a request in place of its answer. The request may have taken
effect nevertheless. -/
structure RequestFault where
  answer : Answer
  takesEffect : Bool

/-- **What a cluster answers where some requests fail**, by the number of requests before. -/
def Platform.answerWith (platform : Platform) (versions : StorageVersions)
    (faults : Nat → Option RequestFault) (request : Request) : StateM Store Answer := fun store =>
  match faults store.moment with
  | none => (platform.answerIn versions request).run store
  | some fault =>
    (fault.answer,
      if fault.takesEffect then ((platform.answerIn versions request).run store).2 else store.tick)

section Faults

variable {platform : Platform} {versions : StorageVersions} {faults : Nat → Option RequestFault}
  {store : Store} {request : Request}

/-- A request that fails without effect changes no objects, and any other one does what it does on
a healthy cluster. -/
theorem Platform.kept_answerWith (platform : Platform) (versions : StorageVersions)
    (faults : Nat → Option RequestFault) (store : Store) (request : Request) :
    ((platform.answerWith versions faults request).run store).2.kept =
      if ∃ fault, faults store.moment = some fault ∧ fault.takesEffect = false then store.kept
      else ((platform.answerIn versions request).run store).2.kept := by
  simp only [answerWith, StateT.run]
  cases faults store.moment with
  | none => simp
  | some fault => cases heffect : fault.takesEffect <;> simp [heffect]

/-- A request of a sweep that fails removes no other objects. -/
theorem pruned_answerWith {ns : String} (h : IsSwept ns request) :
    Pruned versions store ((platform.answerWith versions faults request).run store).2 := by
  have hkept := Platform.kept_answerWith platform versions faults store request
  split at hkept
  · exact .of_kept_eq hkept
  · exact (pruned_of_isSwept h store).trans (.of_kept_eq hkept)

end Faults

/-! ## Deletions -/

open Cluster

/-- **Nothing of a machine is left**: neither the machine nor labelled objects of the kinds that are
deleted with it. -/
structure Store.IsCleared (versions : StorageVersions) (id ns : String) (store : Store) : Prop where
  machine : store.kept (machineIn versions ns id) = none
  owned : ∀ resource ∈ ownedKinds, ∀ name object,
    store.kept ((resource.stored versions).place ns name) = some object → ¬IsOwned id object

theorem Store.IsCleared.mono {versions : StorageVersions} {id ns : String} {store changed : Store}
    (h : store.IsCleared versions id ns)
    (hkept : ∀ location object, changed.kept location = some object →
      store.kept location = some object) : changed.IsCleared versions id ns where
  machine := Option.eq_none_iff_forall_ne_some.mpr fun object hobject => by
    simpa [h.machine] using hkept _ _ hobject
  owned resource hresource name object hobject :=
    h.owned resource hresource name object (hkept _ _ hobject)

namespace Cluster

section Deletions

variable {settings : ClusterSettings} {platform : Platform} {versions : StorageVersions}
  {store : Store} {id ns : String} (hvalid : validate id = .ok ()) (hns : IsLabelText ns)

include hvalid hns

theorem isSendable_deleteMachine :
    (Request.delete machines ns id true).isSendable = true :=
  isSendable_delete machines_path hns (isLabelText_of_validate hvalid).isSegment

/-- A machine that is there is deleted. -/
theorem exec_deleteMachine_of_kept (settings : ClusterSettings)
    (hstore : store.IsAddressable platform versions)
    (hkept : (store.kept (machineIn versions ns id)).isSome) :
    ((deleteMachine settings id ns).exec (platform.answerIn versions)).run store =
      (.ok (), (store.remove (machineIn versions ns id)).tick) := by
  obtain ⟨object, hobject⟩ := Option.isSome_iff_exists.mp hkept
  have hserves := hstore.isServed _ _ hobject machines (isOf_place _ _ _)
  obtain ⟨shown, hshown⟩ : ∃ shown,
      store.shown platform (machineIn versions ns id) = some shown :=
    Option.ne_none_iff_exists'.mp fun hnone => by
      simp [Store.kept_of_not_shown hnone] at hobject
  rw [deleteMachine, exchangeFor, exec_exchangeOr _ _ (isSendable_deleteMachine hvalid hns),
    Platform.answerIn_of_serves rfl hserves]
  rw [machineIn] at hshown
  simp only [Request.mapResource, Platform.serve, hshown, read_deleted]
  rfl

/-- A machine that is not there is not found, whether or not the cluster has machines. -/
theorem exec_deleteMachine_of_not_kept (settings : ClusterSettings) (platform : Platform)
    (hkept : store.kept (machineIn versions ns id) = none) :
    ((deleteMachine settings id ns).exec (platform.answerIn versions)).run store =
      (.error (.notFound Kind.machine ns id), store.tick) := by
  rw [deleteMachine, exchangeFor, exec_exchangeOr _ _ (isSendable_deleteMachine hvalid hns)]
  cases hserves : platform.serves (machines.stored versions) with
  | true =>
    rw [Platform.answerIn_of_serves rfl hserves]
    have hshown : store.shown platform ((machines.stored versions).place ns id) = none :=
      Store.shown_of_not_kept hkept isOf_instances_machineIn
    simp only [Request.mapResource, Platform.serve, hshown, settle_missing]
    rfl
  | false =>
    rw [Platform.answerIn_of_not_serves rfl hserves]
    rfl

/-- **A deletion on a healthy cluster** clears everything when the machine is there. -/
theorem exec_delete_of_kept (settings : ClusterSettings)
    (hstore : store.IsAddressable platform versions)
    (hkept : (store.kept (machineIn versions ns id)).isSome) :
    ∃ final, ((delete settings id ns).exec (platform.answerIn versions)).run store =
      (.ok (), final) ∧ final.IsCleared versions id ns := by
  have hremoved : ∀ location object,
      (store.remove (machineIn versions ns id)).tick.kept location = some object →
        store.kept location = some object :=
    fun _ _ h => Store.kept_of_kept_remove h
  obtain ⟨final, hsweep⟩ :=
    exec_sweep_of_isAddressable settings id hns (hstore.mono hremoved)
  have hpruned : Pruned versions (store.remove (machineIn versions ns id)).tick final :=
    pruned_of_sweep (fun _ => pruned_of_isSwept) hsweep
  refine ⟨final, ?_, ⟨?_, fun resource hresource name object hobject howned => ?_⟩⟩
  · rw [delete_eq hvalid,
      Operation.exec_bind_ok (exec_deleteMachine_of_kept hvalid hns settings hstore hkept)]
    exact hsweep
  · refine hpruned.kept_eq_none ?_
    rw [Store.kept_tick, Store.kept_remove, if_pos rfl]
  -- What is still kept and labelled was kept before the sweep, which has removed it.
  · have hbefore := hpruned.kept_of_kept _ _ hobject
    have hplace := isOf_place (resource.stored versions) ns name
    have hgone := kept_of_sweep_eq_ok hresource
      (hstore.isServed _ _ (hremoved _ _ hbefore) resource hplace) hsweep hbefore howned
      (hstore.name _ _ (hremoved _ _ hbefore) ⟨resource, hresource, hplace⟩)
    rw [hgone] at hobject
    cases hobject

/-- **Without the machine a deletion does nothing**, whatever else is left. -/
theorem exec_delete_of_not_kept (settings : ClusterSettings) (platform : Platform)
    (hkept : store.kept (machineIn versions ns id) = none) :
    ((delete settings id ns).exec (platform.answerIn versions)).run store =
      (.error (.notFound Kind.machine ns id), store.tick) := by
  rw [delete_eq hvalid,
    Operation.exec_bind_error (exec_deleteMachine_of_not_kept hvalid hns settings platform hkept)]

end Deletions

/-! ## After a failure -/

section Failures

variable {settings : ClusterSettings} {platform : Platform} {versions : StorageVersions}
  {faults : Nat → Option RequestFault} {store middle final : Store} {id ns : String}
  {result : Except Failure Unit}

/-- A deletion where some requests fail goes on from its first request by requests of a sweep. -/
theorem pruned_delete (hvalid : validate id = .ok ()) (hns : IsLabelText ns)
    (h : ((delete settings id ns).exec (platform.answerWith versions faults)).run store =
      (result, middle)) :
    Pruned versions
      ((platform.answerWith versions faults (.delete machines ns id true)).run store).2 middle := by
  rw [delete_eq hvalid, Operation.exec_bind, deleteMachine, exchangeFor,
    exec_exchangeOr _ _ (isSendable_deleteMachine hvalid hns)] at h
  split at h
  · next first heq =>
    obtain ⟨-, rfl⟩ := Prod.mk.inj heq
    exact pruned_of_sweep (fun _ hswept _ => pruned_answerWith hswept) h
  · next first heq =>
    obtain ⟨-, rfl⟩ := Prod.mk.inj heq
    obtain ⟨-, rfl⟩ := Prod.mk.inj h
    exact .refl _

/-- A deletion where some requests fail adds no objects. -/
theorem kept_of_kept_delete (hvalid : validate id = .ok ()) (hns : IsLabelText ns)
    (h : ((delete settings id ns).exec (platform.answerWith versions faults)).run store =
      (result, middle)) {location : Location} {object : Json}
    (hobject : middle.kept location = some object) : store.kept location = some object := by
  have hfirst := (pruned_delete hvalid hns h).kept_of_kept _ _ hobject
  rw [Platform.kept_answerWith] at hfirst
  split at hfirst
  · exact hfirst
  · exact Platform.kept_of_kept_answerIn_delete hfirst

/-- **Which failure leaves the machine there**: that of its own deletion, when it took no effect. -/
theorem isSome_kept_machine_iff (hvalid : validate id = .ok ()) (hns : IsLabelText ns)
    (hstore : store.IsAddressable platform versions)
    (h : ((delete settings id ns).exec (platform.answerWith versions faults)).run store =
      (result, middle)) :
    (middle.kept (machineIn versions ns id)).isSome ↔
      (store.kept (machineIn versions ns id)).isSome ∧
        ∃ fault, faults store.moment = some fault ∧ fault.takesEffect = false := by
  rw [(pruned_delete hvalid hns h).kept_eq _ not_isOfOwnedKind_machineIn, Platform.kept_answerWith]
  split
  · next hfault => simp [hfault]
  · next hfault =>
    simp only [hfault, and_false, iff_false, Bool.not_eq_true, Option.isSome_eq_false_iff,
      Option.isNone_iff_eq_none]
    -- The deletion of the machine took effect, unless there was none.
    by_contra hkept
    obtain ⟨object, hobject⟩ := Option.ne_none_iff_exists'.mp hkept
    have hserves := hstore.isServed _ _ (Platform.kept_of_kept_answerIn_delete hobject) machines
      (isOf_place _ _ _)
    rw [machineIn, Platform.kept_answerIn_delete hserves] at hobject
    cases hobject

/-- **When trying again completes a deletion.** After a deletion that failed somewhere, one on the
healthy cluster clears everything exactly when the machine is still there, or nothing else is left
either. The machine is still there when its own deletion was what failed, without effect. -/
theorem isCleared_after_retry_iff {failure : Failure} {outcome : Except Failure Unit}
    (hvalid : validate id = .ok ()) (hns : IsLabelText ns)
    (hstore : store.IsAddressable platform versions)
    (hfirst : ((delete settings id ns).exec (platform.answerWith versions faults)).run store =
      (.error failure, middle))
    (hretry : ((delete settings id ns).exec (platform.answerIn versions)).run middle =
      (outcome, final)) :
    (final.IsCleared versions id ns ↔
        (middle.kept (machineIn versions ns id)).isSome ∨ middle.IsCleared versions id ns) ∧
      ((middle.kept (machineIn versions ns id)).isSome ↔
        (store.kept (machineIn versions ns id)).isSome ∧
          ∃ fault, faults store.moment = some fault ∧ fault.takesEffect = false) := by
  refine ⟨?_, isSome_kept_machine_iff hvalid hns hstore hfirst⟩
  have hmiddle : middle.IsAddressable platform versions :=
    hstore.mono fun _ _ => kept_of_kept_delete hvalid hns hfirst
  cases hkept : middle.kept (machineIn versions ns id) with
  | some object =>
    obtain ⟨cleared, hrun, hcleared⟩ :=
      exec_delete_of_kept hvalid hns settings hmiddle (Option.isSome_of_mem hkept)
    obtain ⟨-, rfl⟩ := Prod.mk.inj (hrun.symm.trans hretry)
    simp [hcleared]
  | none =>
    obtain ⟨-, rfl⟩ := Prod.mk.inj
      ((exec_delete_of_not_kept hvalid hns settings platform hkept).symm.trans hretry)
    simp only [Option.isSome_none, Bool.false_eq_true, false_or]
    exact ⟨fun h => h.mono fun _ _ hobject => hobject, fun h => h.mono fun _ _ hobject => hobject⟩

end Failures

/-! ## A machine with a secret -/

/-- A cluster that keeps objects under the API version that they are asked for in. -/
def separateVersions : StorageVersions :=
  fun apiVersion _ => apiVersion

/-- The object of a machine. -/
def webMachine : Json :=
  .object [("apiVersion", .text "kubevirt.io/v1"), ("kind", .text "VirtualMachine"),
    ("metadata", .object [("name", .text "web")])]

/-- A secret that was made for the machine. -/
def webSecret : Json :=
  .object [("apiVersion", .text "v1"), ("kind", .text "Secret"), ("metadata",
    .object [("labels", .object [(Ownership.machineKey, .text "web")]), ("name", .text "keys")])]

/-- Where the secret is kept. -/
def secretPlace : Location :=
  ((Resource.ofKind "v1" "Secret").stored separateVersions).place "acme-dev" "keys"

/-- A cluster with a machine and its secret. -/
def webStore : Store :=
  (Store.empty.put (machineIn separateVersions "acme-dev" "web") webMachine).put secretPlace
    webSecret

theorem isAddressable_webStore : webStore.IsAddressable podPlatform separateVersions := by
  have hmachine : IsReadable webMachine := (by decide +kernel : (object? webMachine).isSome)
  have hsecret : IsReadable webSecret := (by decide +kernel : (object? webSecret).isSome)
  refine ((Store.IsAddressable.empty _ _).put (fun _ _ => rfl) hmachine rfl ?_).put
    (fun _ _ => rfl) hsecret rfl ?_
  · exact ⟨by decide, by decide⟩
  · exact ⟨by decide, by decide⟩

/-- A cluster where one request fails, without effect. -/
def outage (moment : Nat) : Nat → Option RequestFault := fun now =>
  if now = moment then some ⟨.refuse 500 "InternalError" "etcdserver: leader changed", false⟩
  else none

/-- The failure of a deletion during the outage. -/
def outageFailure : Failure :=
  .rejected ⟨"Failure", "etcdserver: leader changed", "InternalError", 500⟩

/-- How a cluster is used. -/
def webSettings : ClusterSettings :=
  ⟨.ofSeconds 30, none, "https://api.test:6443/"⟩

/-- When the first request fails, the second deletion clears everything. -/
theorem isCleared_after_outage_of_machine :
    webStore.IsAddressable podPlatform separateVersions ∧
      ∃ middle outcome final,
        ((delete webSettings "web" "acme-dev").exec
          (podPlatform.answerWith separateVersions (outage 0))).run webStore =
            (.error outageFailure, middle) ∧
        ((delete webSettings "web" "acme-dev").exec
          (podPlatform.answerIn separateVersions)).run middle = (outcome, final) ∧
        final.IsCleared separateVersions "web" "acme-dev" := by
  obtain ⟨middle, hfirst⟩ : ∃ middle, ((delete webSettings "web" "acme-dev").exec
      (podPlatform.answerWith separateVersions (outage 0))).run webStore =
        (.error outageFailure, middle) :=
    ⟨_, Prod.ext (by decide +kernel) rfl⟩
  obtain ⟨outcome, final, hretry⟩ : ∃ outcome final, ((delete webSettings "web" "acme-dev").exec
      (podPlatform.answerIn separateVersions)).run middle = (outcome, final) :=
    ⟨_, _, rfl⟩
  obtain ⟨hcleared, hmachine⟩ := isCleared_after_retry_iff (by decide +kernel) (by decide +kernel)
    isAddressable_webStore hfirst hretry
  refine ⟨isAddressable_webStore, middle, outcome, final, hfirst, hretry, hcleared.mpr (.inl ?_)⟩
  exact hmachine.mpr ⟨by decide +kernel, _, rfl, rfl⟩

/-- When a later request fails, the second deletion does not find the machine and leaves the
secret. -/
theorem exists_not_isCleared_after_retry :
    webStore.IsAddressable podPlatform separateVersions ∧
      ∃ faults failure middle outcome final,
        ((delete webSettings "web" "acme-dev").exec
          (podPlatform.answerWith separateVersions faults)).run webStore =
            (.error failure, middle) ∧
        ((delete webSettings "web" "acme-dev").exec
          (podPlatform.answerIn separateVersions)).run middle = (outcome, final) ∧
        ¬final.IsCleared separateVersions "web" "acme-dev" := by
  refine ⟨isAddressable_webStore, outage 3, outageFailure, _, _, _,
    Prod.ext (by decide +kernel) rfl, rfl, fun hcleared => ?_⟩
  refine hcleared.owned (.ofKind "v1" "Secret") (by decide +kernel) "keys" webSecret ?_ rfl
  decide +kernel

end Cluster

end VmProvisioning
