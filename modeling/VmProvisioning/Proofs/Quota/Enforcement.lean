import VmProvisioning.Proofs.Api.Schema
import VmProvisioning.Proofs.Cluster.Retry
import VmProvisioning.Proofs.Quota.Admission
import VmProvisioning.Quota.Enforcement

/-!
# Enforcement of quotas again and again

What is applied for a datacenter takes the place of whatever was there: the resource quota is that
of the ceilings, and there is a limit range exactly with bounds. So it makes no difference what a
namespace has been through, as long as the last attempt succeeds. Requests may fail on the way, and
may have taken effect nevertheless; an attempt that meets a failure does not succeed.

## Main definitions

* `Api.Answer.isOutage`: an answer that neither succeeds nor says that an object is missing
* `Enforcement.managed`: what a datacenter asks for at a location
* `Enforcement.IsInLine`: a namespace in line with a datacenter
* `Enforcement.CanApply`: what it takes to bring a namespace in line

## Main results

* `Schema.isSome_read?_resourceQuota`, `isSome_read?_limitRange`: managed objects are readable
* `kept_of_apply_eq_ok`, `kept_of_deleteLimitRange_eq_ok`: what single requests leave behind
* `exec_applyDatacenter`: applying succeeds wherever it can
* `applyDatacenter_converges`: the last successful attempt decides, and again changes nothing
-/

namespace VmProvisioning

open Api

/-! ## Managed objects are readable -/

namespace Schema

variable {types : List (String × Option Json × Schema)} {members : List (String × Json)}

/-- A record is readable when each of its members is. -/
theorem isSome_read?_ofMembers (h : ∀ member ∈ types, ∀ value,
      Fields.get? (Fields.ofList members) member.1 = some value →
        (member.2.2.read? value).isSome) :
    ((record types).read? (.ofMembers members)).isSome := by
  refine read?_record_isSome_iff.mpr fun member hmember value hvalue => ?_
  exact h member hmember value (Option.filter_eq_some_iff.mp hvalue).1

@[simp] theorem isSome_read?_texts (fields : Fields String) :
    (texts.read? (.ofTexts fields)).isSome := by
  simp [read?, texts?, Json.ofTexts, Json.text?]

@[simp] theorem isSome_read?_text (content : String) : (text.read? (.text content)).isSome := by
  rfl

@[simp] theorem isSome_read?_constant (content : String) :
    ((constant content).read? (.text content)).isSome := by
  simp [read?]

theorem isSome_read?_managedMetadata (name ns : String) :
    (metadata.read? (ResourceQuota.managedMetadata name ns)).isSome := by
  refine isSome_read?_ofMembers ?_
  simp [optional, Fields.get?_ofList, Fields.get?]

/-- **The resource quota of a namespace is readable**, whatever its limits are. -/
theorem isSome_read?_resourceQuota (quota : ResourceQuota) :
    (resourceQuota.read? quota.toJson).isSome := by
  refine isSome_read?_ofMembers ?_
  simp only [optional, List.forall_mem_cons]
  refine ⟨?_, ?_, ?_, ?_, ?_, ?_⟩
  · simp [Fields.get?_ofList, Fields.get?, ResourceQuota.resource]
  · simp [Fields.get?_ofList, Fields.get?, ResourceQuota.resource]
  · simp [Fields.get?_ofList, Fields.get?, isSome_read?_managedMetadata]
  · intro spec hspec
    obtain rfl : .ofMembers [("hard", .ofTexts quota.hard)] = spec := by
      simpa [Fields.get?_ofList, Fields.get?] using hspec
    refine isSome_read?_ofMembers ?_
    simp [Fields.get?_ofList, Fields.get?]
  · simp [Fields.get?_ofList, Fields.get?]
  · simp

theorem isSome_read?_limits (limits : Limits) :
    ((record [optional "default" texts, optional "defaultRequest" texts, optional "max" texts,
      optional "maxLimitRequestRatio" texts, optional "min" texts, plain "type"]).read?
        limits.toJson).isSome := by
  refine isSome_read?_ofMembers ?_
  simp [optional, plain, Fields.get?_ofList, Fields.get?]

/-- **The limit range of a namespace is readable**, whatever its limits are. -/
theorem isSome_read?_limitRange (range : LimitRange) :
    (limitRange.read? range.toJson).isSome := by
  refine isSome_read?_ofMembers ?_
  simp only [optional, List.forall_mem_cons]
  refine ⟨?_, ?_, ?_, ?_, ?_⟩
  · simp [Fields.get?_ofList, Fields.get?, LimitRange.resource]
  · simp [Fields.get?_ofList, Fields.get?, LimitRange.resource]
  · simp [Fields.get?_ofList, Fields.get?, isSome_read?_managedMetadata]
  · intro spec hspec
    obtain rfl : .ofMembers [("limits", .array (range.limits.map Limits.toJson))] = spec := by
      simpa [Fields.get?_ofList, Fields.get?] using hspec
    refine isSome_read?_ofMembers ?_
    simp only [List.forall_mem_singleton]
    intro limits hlimits
    obtain rfl : .array (range.limits.map Limits.toJson) = limits := by
      simpa [Fields.get?_ofList, Fields.get?] using hlimits
    rw [read?, Option.isSome_map, Option.isSome_iff_exists]
    refine Cluster.exists_mapM_eq_some fun limits hlimits => ?_
    obtain ⟨limits, -, rfl⟩ := List.mem_map.mp hlimits
    exact isSome_read?_limits limits
  · simp

end Schema

/-! ## Single requests -/

/-- **An outage**: an answer that is no success and does not say that an object is missing. -/
def Api.Answer.isOutage : Answer → Bool
  | .answered code body => decide (400 ≤ code ∧ code < 600) && (refusal code body).code != 404
  | .disconnected _ | .silent => true

/-- An outage is read as trouble that is no missing object. -/
theorem Api.exists_trouble_of_isOutage {α : Type} {answer : Answer} (h : answer.isOutage = true)
    (read : Json → Option α) :
    ∃ trouble, answer.read read = .error trouble ∧ trouble.isNotFound = false := by
  cases answer with
  | answered code body =>
    obtain ⟨hrefused, hcode⟩ := Bool.and_eq_true_iff.mp h
    refine ⟨.refused (refusal code body), ?_, ?_⟩
    · rw [Answer.read, if_pos (of_decide_eq_true hrefused)]
    · simpa [Trouble.isNotFound] using hcode
  | disconnected message => exact ⟨.disconnected message, rfl, rfl⟩
  | silent => exact ⟨.timedOut, rfl, rfl⟩

section Requests

variable {α : Type} {platform : Platform} {versions : StorageVersions}
  {faults : Nat → Option RequestFault} {store after : Store} {request : Request}
  {resource : Resource} {ns name manager : String} {object : Json} {concern : Concern}
  {read : Json → Option α} {value : α}

/-- What is no outage is the answer of the healthy cluster. -/
theorem Platform.answerWith_eq_answerIn
    (hfaults : ∀ moment fault, faults moment = some fault → fault.answer.isOutage = true)
    (h : ((platform.answerWith versions faults request).run store).1.isOutage = false) :
    (platform.answerWith versions faults request).run store =
      (platform.answerIn versions request).run store := by
  simp only [answerWith, StateT.run] at h ⊢
  cases hfault : faults store.moment with
  | none => rfl
  | some fault =>
    rw [hfault] at h
    exact absurd (hfaults _ _ hfault) (by simp [h])

/-- An object can be applied when it can be addressed, and the name of its manager is not too
long. -/
theorem isSendable_apply_iff :
    (Request.apply resource ns name manager object).isSendable = true ↔
      (Request.get resource ns name).isSendable = true ∧
        manager.utf8ByteSize ≤ Request.maxManagerLength := by
  simp only [Request.isSendable, Request.path, Bool.and_eq_true, decide_eq_true_eq]
  exact and_right_comm

/-- **An applied object is kept as it is**, and nothing else changes. -/
theorem kept_of_apply_eq_ok
    (hfaults : ∀ moment fault, faults moment = some fault → fault.answer.isOutage = true)
    (h : ((exchangeFor concern (.apply resource ns name manager object) read).exec
      (platform.answerWith versions faults)).run store = (.ok value, after)) :
    (Request.apply resource ns name manager object).isSendable = true ∧
      platform.serves (resource.stored versions) = true ∧
      ∀ location, after.kept location =
        if location = (resource.stored versions).place ns name then some object
        else store.kept location := by
  obtain ⟨hsendable, rfl, hsettle⟩ := exec_exchangeOr_eq_ok h rfl
  have hread := (settle_eq_ok_iff (by simp)).mp hsettle
  have hanswer : ((platform.answerWith versions faults
      (.apply resource ns name manager object)).run store).1.isOutage = false := by
    by_contra houtage
    obtain ⟨trouble, htrouble, -⟩ :=
      exists_trouble_of_isOutage (Bool.not_eq_false _ ▸ houtage) read
    rw [htrouble] at hread
    cases hread
  rw [Platform.answerWith_eq_answerIn hfaults hanswer] at hread ⊢
  cases hserves : platform.serves (resource.stored versions) with
  | false =>
    rw [Platform.answerIn_of_not_serves rfl hserves] at hread
    cases hread
  | true =>
    refine ⟨hsendable, rfl, fun location => ?_⟩
    rw [Platform.answerIn_of_serves rfl hserves]
    simp only [Request.mapResource, Platform.serve, Store.kept_tick, Store.kept_put]

/-- On a healthy cluster an object that can be read is applied. -/
theorem exec_apply (hsendable : (Request.apply resource ns name manager object).isSendable = true)
    (hserves : platform.serves (resource.stored versions) = true)
    (hother : ((resource.stored versions).place ns name).isOf Cluster.machines = false)
    (hread : read object = some value) :
    ((exchangeFor concern (.apply resource ns name manager object) read).exec
      (platform.answerIn versions)).run store =
        (.ok value, (store.put ((resource.stored versions).place ns name) object).tick) := by
  rw [exchangeFor, exec_exchangeOr _ _ hsendable, Platform.answerIn_of_serves rfl hserves]
  have hshown : (store.put ((resource.stored versions).place ns name) object).shown platform
      ((resource.stored versions).place ns name) = some object := by
    simp [Store.shown, Store.kept_put, hother]
  simp only [Request.mapResource, Platform.serve, Platform.report, hshown, Answer.read,
    Body.json?, Option.bind_some, hread]
  rfl

end Requests

/-! ## The managed objects of a namespace -/

namespace Enforcement

/-- Where the resource quota of a namespace is kept. -/
def quotaAt (versions : StorageVersions) (ns : String) : Location :=
  (ResourceQuota.resource.stored versions).place ns ResourceQuota.name

/-- Where the limit range of a namespace is kept. -/
def rangeAt (versions : StorageVersions) (ns : String) : Location :=
  (LimitRange.resource.stored versions).place ns LimitRange.name

/-- **What a datacenter asks for at a location**: nothing where it does not manage an object, and
else the object that is to be kept there, if any. -/
def managed (versions : StorageVersions) (datacenter : Datacenter) (location : Location) :
    Option (Option Json) :=
  if location = quotaAt versions datacenter.workloadNamespace then
    some (some (datacenter.spec.quota.resourceQuota datacenter.workloadNamespace).toJson)
  else if location = rangeAt versions datacenter.workloadNamespace then
    some (datacenter.spec.limitRange.map fun bounds =>
      (LimitRange.ofBounds datacenter.workloadNamespace bounds).toJson)
  else none

/-- **A namespace in line with a datacenter**: it has the resource quota of the ceilings and the
limit range of the bounds, or none without bounds, and nothing else has changed. -/
structure IsInLine (versions : StorageVersions) (datacenter : Datacenter) (before after : Store) :
    Prop where
  quota : after.kept (quotaAt versions datacenter.workloadNamespace) =
    some (datacenter.spec.quota.resourceQuota datacenter.workloadNamespace).toJson
  range : after.kept (rangeAt versions datacenter.workloadNamespace) =
    datacenter.spec.limitRange.map fun bounds =>
      (LimitRange.ofBounds datacenter.workloadNamespace bounds).toJson
  elsewhere : ∀ location, location ≠ quotaAt versions datacenter.workloadNamespace →
    location ≠ rangeAt versions datacenter.workloadNamespace →
    after.kept location = before.kept location

/-- **What it takes to bring a namespace in line**: both objects can be addressed, the name of the
manager is not too long, and the bounds can be kept. -/
structure CanApply (platform : Platform) (versions : StorageVersions) (manager : String)
    (datacenter : Datacenter) : Prop where
  servesQuota : platform.serves (ResourceQuota.resource.stored versions) = true
  servesRange : platform.serves (LimitRange.resource.stored versions) = true
  isSendableQuota : (Request.get ResourceQuota.resource datacenter.workloadNamespace
    ResourceQuota.name).isSendable = true
  isSendableRange : (Request.get LimitRange.resource datacenter.workloadNamespace
    LimitRange.name).isSendable = true
  manager : manager.utf8ByteSize ≤ Request.maxManagerLength
  bounds : ∀ bounds ∈ datacenter.spec.limitRange, bounds.validate = .ok ()

variable {platform : Platform} {versions : StorageVersions} {faults : Nat → Option RequestFault}
  {store after : Store} {timeout : Duration} {manager : String} {datacenter : Datacenter}
  {ns : String}

theorem quotaAt_ne_rangeAt (versions : StorageVersions) (ns other : String) :
    quotaAt versions ns ≠ rangeAt versions other := by
  intro h
  have hplural : ResourceQuota.resource.plural = LimitRange.resource.plural :=
    congrArg Location.plural h
  exact absurd hplural (by decide)

theorem isOf_machines_quotaAt : (quotaAt versions ns).isOf Cluster.machines = false := by
  have hplural : (ResourceQuota.resource.plural == Cluster.machines.plural) = false := by decide
  simp only [Location.isOf, quotaAt, Resource.place, Resource.stored, hplural, Bool.and_false]

theorem isOf_machines_rangeAt : (rangeAt versions ns).isOf Cluster.machines = false := by
  have hplural : (LimitRange.resource.plural == Cluster.machines.plural) = false := by decide
  simp only [Location.isOf, rangeAt, Resource.place, Resource.stored, hplural, Bool.and_false]

/-- Being in line says for every location what is kept there. -/
theorem isInLine_iff : IsInLine versions datacenter store after ↔
    ∀ location, after.kept location =
      (managed versions datacenter location).getD (store.kept location) := by
  unfold managed
  constructor
  · intro h location
    split
    · next heq =>
      rw [heq]
      exact h.quota
    · next hquota =>
      split
      · next heq =>
        rw [heq]
        exact h.range
      · next hrange => exact h.elsewhere location hquota hrange
  · intro h
    refine ⟨?_, ?_, ?_⟩
    · rw [h, if_pos rfl]
      rfl
    · rw [h, if_neg (quotaAt_ne_rangeAt _ _ _).symm, if_pos rfl]
      rfl
    · intro location hquota hrange
      rw [h, if_neg hquota, if_neg hrange]
      rfl

/-! ## Deleting the limit range -/

/-- **A limit range that is deleted is gone**, and nothing else changes; it may be missing. -/
theorem kept_of_deleteLimitRange_eq_ok
    (hserves : platform.serves (LimitRange.resource.stored versions) = true)
    (hfaults : ∀ moment fault, faults moment = some fault → fault.answer.isOutage = true)
    (h : ((deleteLimitRange timeout ns).exec (platform.answerWith versions faults)).run store =
      (.ok (), after)) :
    (Request.delete LimitRange.resource ns LimitRange.name false).isSendable = true ∧
      ∀ location, after.kept location =
        if location = rangeAt versions ns then none else store.kept location := by
  obtain ⟨hsendable, rfl, hsettle⟩ := exec_exchangeOr_eq_ok h rfl
  have hanswer : ((platform.answerWith versions faults
      (.delete LimitRange.resource ns LimitRange.name false)).run store).1.isOutage = false := by
    by_contra houtage
    obtain ⟨trouble, htrouble, hfound⟩ := exists_trouble_of_isOutage
      (Bool.not_eq_false _ ▸ houtage) (deletion? Schema.limitRange.read?)
    rw [htrouble] at hsettle
    simp [settle, hfound] at hsettle
  rw [Platform.answerWith_eq_answerIn hfaults hanswer]
  refine ⟨hsendable, fun location => ?_⟩
  split
  · next heq =>
    rw [heq]
    exact Platform.kept_answerIn_delete hserves
  · next hne => exact Platform.kept_answerIn_delete_of_ne hne

/-- On a healthy cluster the limit range is deleted, whether or not there is one. -/
theorem exec_deleteLimitRange
    (hsendable : (Request.delete LimitRange.resource ns LimitRange.name false).isSendable = true)
    (hserves : platform.serves (LimitRange.resource.stored versions) = true) :
    ∃ after, ((deleteLimitRange timeout ns).exec (platform.answerIn versions)).run store =
      (.ok (), after) := by
  rw [deleteLimitRange, exec_exchangeOr _ _ hsendable, Platform.answerIn_of_serves rfl hserves]
  simp only [Request.mapResource, Platform.serve]
  cases store.shown platform ((LimitRange.resource.stored versions).place ns LimitRange.name) with
  | some object => exact ⟨_, rfl⟩
  | none =>
    rw [Answer.missing, read_refuse (by decide) (by decide)]
    exact ⟨_, rfl⟩

/-! ## Applying a datacenter -/

/-- The quota comes first, and then the limit range. -/
theorem applyDatacenter_eq (timeout : Duration) (datacenter : Datacenter) (manager : String) :
    applyDatacenter timeout datacenter manager = (do
      applyResourceQuota timeout
        (datacenter.spec.quota.resourceQuota datacenter.workloadNamespace) manager
      match datacenter.spec.limitRange with
      | some bounds => applyLimitRange timeout datacenter.workloadNamespace bounds manager
      | none => deleteLimitRange timeout datacenter.workloadNamespace) := by
  rfl

/-- The quota is applied first, and then the limit range is applied or deleted. -/
theorem isInLine_of_steps {middle : Store}
    (hquota : ∀ location, middle.kept location =
      if location = quotaAt versions datacenter.workloadNamespace then
        some (datacenter.spec.quota.resourceQuota datacenter.workloadNamespace).toJson
      else store.kept location)
    (hrange : ∀ location, after.kept location =
      if location = rangeAt versions datacenter.workloadNamespace then
        datacenter.spec.limitRange.map fun bounds =>
          (LimitRange.ofBounds datacenter.workloadNamespace bounds).toJson
      else middle.kept location) :
    IsInLine versions datacenter store after where
  quota := by rw [hrange, if_neg (quotaAt_ne_rangeAt _ _ _), hquota, if_pos rfl]
  range := by rw [hrange, if_pos rfl]
  elsewhere location hne hne' := by rw [hrange, if_neg hne', hquota, if_neg hne]

/-- **Applying brings a namespace in line**, and succeeds only where it can be. -/
theorem isInLine_of_applyDatacenter_eq_ok
    (hserves : platform.serves (LimitRange.resource.stored versions) = true)
    (hfaults : ∀ moment fault, faults moment = some fault → fault.answer.isOutage = true)
    (h : ((applyDatacenter timeout datacenter manager).exec
      (platform.answerWith versions faults)).run store = (.ok (), after)) :
    IsInLine versions datacenter store after ∧ CanApply platform versions manager datacenter := by
  rw [applyDatacenter_eq] at h
  obtain ⟨done, middle, hquota, hrange⟩ := Operation.exec_bind_eq_ok h
  obtain ⟨hsendable, hserved, hkept⟩ := kept_of_apply_eq_ok hfaults hquota
  obtain ⟨hquota, hmanager⟩ := isSendable_apply_iff.mp hsendable
  cases hbounds : datacenter.spec.limitRange with
  | some bounds =>
    rw [hbounds] at hrange
    obtain ⟨valid, hvalid, happlied⟩ := Operation.exec_ofExcept_bind_eq_ok hrange
    obtain ⟨hsendable', -, hkept'⟩ := kept_of_apply_eq_ok hfaults happlied
    refine ⟨isInLine_of_steps hkept (by rw [hbounds]; exact hkept'),
      ⟨hserved, hserves, hquota, (isSendable_apply_iff.mp hsendable').1, hmanager, ?_⟩⟩
    rw [hbounds]
    rintro _ ⟨⟩
    exact hvalid
  | none =>
    rw [hbounds] at hrange
    obtain ⟨hsendable', hkept'⟩ := kept_of_deleteLimitRange_eq_ok hserves hfaults hrange
    refine ⟨isInLine_of_steps hkept (by rw [hbounds]; exact hkept'),
      ⟨hserved, hserves, hquota, hsendable', hmanager, ?_⟩⟩
    rw [hbounds]
    rintro _ ⟨⟩

/-- **On a healthy cluster applying succeeds** wherever it can. -/
theorem exec_applyDatacenter (h : CanApply platform versions manager datacenter)
    (timeout : Duration) (store : Store) :
    ∃ after, ((applyDatacenter timeout datacenter manager).exec (platform.answerIn versions)).run
      store = (.ok (), after) := by
  obtain ⟨quota, hquota⟩ := Option.isSome_iff_exists.mp (Schema.isSome_read?_resourceQuota
    (datacenter.spec.quota.resourceQuota datacenter.workloadNamespace))
  have happlied : ((applyResourceQuota timeout (datacenter.spec.quota.resourceQuota
      datacenter.workloadNamespace) manager).exec (platform.answerIn versions)).run store =
        (.ok (), _) :=
    exec_apply (isSendable_apply_iff.mpr ⟨h.isSendableQuota, h.manager⟩) h.servesQuota
      isOf_machines_quotaAt (congrArg (Option.map fun _ => ()) hquota)
  rw [applyDatacenter_eq, Operation.exec_bind_ok happlied]
  cases hbounds : datacenter.spec.limitRange with
  | some bounds =>
    obtain ⟨range, hrange⟩ := Option.isSome_iff_exists.mp (Schema.isSome_read?_limitRange
      (LimitRange.ofBounds datacenter.workloadNamespace bounds))
    simp only [applyLimitRange, h.bounds bounds hbounds, Operation.ofExcept_ok_bind]
    exact ⟨_, exec_apply (isSendable_apply_iff.mpr ⟨h.isSendableRange, h.manager⟩) h.servesRange
      isOf_machines_rangeAt (congrArg (Option.map fun _ => ()) hrange)⟩
  | none => exact exec_deleteLimitRange h.isSendableRange h.servesRange

/-! ## Applying again, and applying in turn -/

/-- The healthy cluster is one without faults. -/
theorem answerWith_none : platform.answerWith versions (fun _ => none) =
    platform.answerIn versions := by
  rfl

/-- **Applying again changes nothing**, and succeeds. -/
theorem exec_applyDatacenter_again {before : Store}
    (h : CanApply platform versions manager datacenter)
    (hline : IsInLine versions datacenter before store) (timeout : Duration) :
    ∃ again, ((applyDatacenter timeout datacenter manager).exec (platform.answerIn versions)).run
      store = (.ok (), again) ∧ again.kept = store.kept := by
  obtain ⟨again, hrun⟩ := exec_applyDatacenter h timeout store
  rw [← answerWith_none] at hrun
  have hagain := isInLine_iff.mp
    (isInLine_of_applyDatacenter_eq_ok h.servesRange (by simp) hrun).1
  refine ⟨again, hrun, funext fun location => ?_⟩
  rw [hagain, isInLine_iff.mp hline]
  cases managed versions datacenter location <;> rfl

/-- **Datacenters that are applied in turn** leave at every location what the last one asks for
that manages it. -/
theorem kept_of_forM_applyDatacenter_eq_ok {datacenters : List Datacenter}
    (hserves : platform.serves (LimitRange.resource.stored versions) = true)
    (hfaults : ∀ moment fault, faults moment = some fault → fault.answer.isOutage = true)
    (h : ((datacenters.forM fun datacenter => applyDatacenter timeout datacenter manager).exec
      (platform.answerWith versions faults)).run store = (.ok (), after)) (location : Location) :
    after.kept location = ((datacenters.reverse.findSome? fun datacenter =>
      managed versions datacenter location).getD (store.kept location)) := by
  -- Induction on the datacenters left, from any store.
  induction datacenters generalizing store with
  | nil =>
    cases h
    rfl
  | cons datacenter rest ih =>
    rw [Operation.forM_cons] at h
    obtain ⟨done, middle, hfirst, hothers⟩ := Operation.exec_bind_eq_ok h
    have hline := isInLine_iff.mp (isInLine_of_applyDatacenter_eq_ok hserves hfaults hfirst).1
    rw [ih hothers, hline, List.reverse_cons, List.findSome?_append]
    cases rest.reverse.findSome? fun datacenter => managed versions datacenter location with
    | some asked => rfl
    | none => cases hmanaged : managed versions datacenter location <;> simp [hmanaged]

/-- Datacenters with one namespace manage the same locations. -/
theorem managed_eq_none_iff_of_ns_eq {other : Datacenter} {location : Location}
    (h : datacenter.workloadNamespace = other.workloadNamespace) :
    managed versions datacenter location = none ↔ managed versions other location = none := by
  simp [managed, h, ite_eq_iff]

/-- **The last attempt that succeeds decides.** A successful attempt brings the namespace in line,
and another one on the healthy cluster succeeds and changes nothing. Of several that succeed in
turn, every location has what the last one asks for that manages it; with one namespace this is
what the last one alone leaves, whatever was there before. -/
theorem applyDatacenter_converges
    (hserves : platform.serves (LimitRange.resource.stored versions) = true)
    (hfaults : ∀ moment fault, faults moment = some fault → fault.answer.isOutage = true)
    (timeout : Duration) (manager : String) (store after : Store) :
    (∀ datacenter, ((applyDatacenter timeout datacenter manager).exec
        (platform.answerWith versions faults)).run store = (.ok (), after) →
      IsInLine versions datacenter store after ∧
        ∃ again, ((applyDatacenter timeout datacenter manager).exec
          (platform.answerIn versions)).run after = (.ok (), again) ∧ again.kept = after.kept) ∧
    (∀ datacenters : List Datacenter,
      ((datacenters.forM fun datacenter => applyDatacenter timeout datacenter manager).exec
        (platform.answerWith versions faults)).run store = (.ok (), after) →
      ∀ location, after.kept location = ((datacenters.reverse.findSome? fun datacenter =>
        managed versions datacenter location).getD (store.kept location))) ∧
    (∀ (datacenters : List Datacenter) (last : Datacenter),
      (∀ datacenter ∈ datacenters, datacenter.workloadNamespace = last.workloadNamespace) →
      (((datacenters ++ [last]).forM fun datacenter =>
        applyDatacenter timeout datacenter manager).exec
          (platform.answerWith versions faults)).run store = (.ok (), after) →
      IsInLine versions last store after) := by
  refine ⟨?_, fun datacenters => kept_of_forM_applyDatacenter_eq_ok hserves hfaults, ?_⟩
  · intro datacenter h
    obtain ⟨hline, hcan⟩ := isInLine_of_applyDatacenter_eq_ok hserves hfaults h
    exact ⟨hline, exec_applyDatacenter_again hcan hline timeout⟩
  · intro datacenters last hns h
    rw [isInLine_iff]
    intro location
    rw [kept_of_forM_applyDatacenter_eq_ok hserves hfaults h, List.reverse_append,
      List.reverse_singleton, List.singleton_append, List.findSome?_cons]
    cases hmanaged : managed versions last location with
    | some asked => rfl
    | none =>
      -- No other one manages the location either.
      have hnone : datacenters.reverse.findSome?
          (fun datacenter => managed versions datacenter location) = none := by
        refine List.findSome?_eq_none_iff.mpr fun datacenter hmem => ?_
        exact (managed_eq_none_iff_of_ns_eq (hns _ (List.mem_reverse.mp hmem))).mpr hmanaged
      simp only [hnone]

/-! ## Bounds that are dropped -/

/-- A datacenter with bounds. -/
def boundedDatacenter : Datacenter :=
  ⟨"acme", ⟨"acme", "acme-dev", ⟨16, 64, 500⟩, some ⟨1, 4, 1, 16⟩⟩⟩

/-- The datacenter without bounds, and with a ceiling for memory alone. -/
def unboundedDatacenter : Datacenter :=
  ⟨"acme", ⟨"acme", "acme-dev", ⟨0, 128, 0⟩, none⟩⟩

/-- The limit range of the first specification is gone after the second. -/
theorem isInLine_unboundedDatacenter :
    ∃ after, (([boundedDatacenter, unboundedDatacenter].forM fun datacenter =>
        applyDatacenter Cluster.webSettings.timeout datacenter "platform-team").exec
          (podPlatform.answerWith Cluster.separateVersions (Cluster.outage 4))).run Store.empty =
            (.ok (), after) ∧
      IsInLine Cluster.separateVersions unboundedDatacenter Store.empty after ∧
      after.kept (rangeAt Cluster.separateVersions "acme-dev") = none := by
  have hfaults : ∀ moment fault, Cluster.outage 4 moment = some fault →
      fault.answer.isOutage = true := by
    intro moment fault h
    obtain ⟨-, rfl⟩ := Option.ite_some_none_eq_some.mp h
    decide +kernel
  obtain ⟨after, hrun⟩ : ∃ after, (([boundedDatacenter, unboundedDatacenter].forM fun datacenter =>
      applyDatacenter Cluster.webSettings.timeout datacenter "platform-team").exec
        (podPlatform.answerWith Cluster.separateVersions (Cluster.outage 4))).run Store.empty =
          (.ok (), after) :=
    ⟨_, Prod.ext (by decide +kernel) rfl⟩
  have hserves : podPlatform.serves (LimitRange.resource.stored Cluster.separateVersions) = true :=
    rfl
  obtain ⟨-, -, hdecides⟩ := applyDatacenter_converges hserves hfaults Cluster.webSettings.timeout
    "platform-team" Store.empty after
  have hline := hdecides [boundedDatacenter] unboundedDatacenter
    (List.forall_mem_singleton.mpr rfl) hrun
  exact ⟨after, hrun, hline, hline.range⟩

end Enforcement

end VmProvisioning
