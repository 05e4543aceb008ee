import VmProvisioning.Api.Answer
import VmProvisioning.Quota.LimitRange

/-!
# Enforcement of quotas

The ceilings and bounds of a datacenter are applied to the namespace of its machines, so that
doing it again changes nothing. The fields that are applied belong to a manager.

## Main definitions

* `Enforcement.applyResourceQuota`, `applyLimitRange`, `deleteLimitRange`, `limitInfo`: single
  steps
* `Enforcement.applyDatacenter`: bring a namespace in line with a datacenter
-/

namespace VmProvisioning.Enforcement

open Api

/-- An operation on the managed resource quota of a namespace. -/
def quotaConcern (timeout : Duration) (operation ns : String) : Concern :=
  ⟨operation, timeout, ResourceQuota.resource.kind, ns, ResourceQuota.name⟩

/-- An operation on the managed limit range of a namespace. -/
def rangeConcern (timeout : Duration) (operation ns : String) : Concern :=
  ⟨operation, timeout, LimitRange.resource.kind, ns, LimitRange.name⟩

/-- Create or change the resource quota of a namespace. -/
def applyResourceQuota (timeout : Duration) (quota : ResourceQuota)
    (manager : String := Ownership.manager) : Action Unit :=
  exchangeFor (quotaConcern timeout "apply ResourceQuota" quota.ns)
    (.apply ResourceQuota.resource quota.ns ResourceQuota.name manager quota.toJson)
    fun value => (Schema.resourceQuota.read? value).map fun _ => ()

/-- Create or change the limit range of a namespace, unless no machine can keep the bounds. -/
def applyLimitRange (timeout : Duration) (ns : String) (bounds : Bounds)
    (manager : String := Ownership.manager) : Action Unit := do
  Operation.ofExcept bounds.validate
  exchangeFor (rangeConcern timeout "apply LimitRange" ns)
    (.apply LimitRange.resource ns LimitRange.name manager
      (LimitRange.ofBounds ns bounds).toJson)
    fun value => (Schema.limitRange.read? value).map fun _ => ()

/-- Delete the limit range of a namespace, which may be missing. -/
def deleteLimitRange (timeout : Duration) (ns : String) : Action Unit :=
  exchangeOr (rangeConcern timeout "delete LimitRange" ns)
    (.delete LimitRange.resource ns LimitRange.name false)
    (deletion? Schema.limitRange.read?)
    fun trouble => if trouble.isNotFound then some (.ok ()) else none

/-- The bounds that are in force in a namespace. -/
def limitInfo (timeout : Duration) (ns : String) : Action LimitInfo := do
  let range? ← getOptional (rangeConcern timeout "get LimitRange" ns) LimitRange.resource
    LimitRange.ofJson?
  return (range?.map LimitInfo.ofLimitRange).getD .absent

/-- **Bring a namespace in line with a datacenter**: apply its ceilings, then apply its bounds or
delete those that are left over. -/
def applyDatacenter (timeout : Duration) (datacenter : Datacenter)
    (manager : String := Ownership.manager) : Action Unit := do
  let ns := datacenter.workloadNamespace
  let quota := datacenter.spec.quota
  applyResourceQuota timeout
    (.ofCeilings ns (quota.cpu.toNat * 1000) quota.memoryGi quota.storageGi) manager
  match datacenter.spec.limitRange with
  | some bounds => applyLimitRange timeout ns bounds manager
  | none => deleteLimitRange timeout ns

end VmProvisioning.Enforcement
