import VmProvisioning.Json.Basic
import VmProvisioning.Kind
import VmProvisioning.Ownership
import VmProvisioning.Quantity

/-!
# Resource quotas

The ceilings of a datacenter as an object of the cluster, which bounds all containers of a
namespace together.

## Main definitions

* `ResourceQuota`: the object
* `ResourceQuota.ofCeilings`: the object for ceilings
-/

namespace VmProvisioning

/-- **A resource quota**: the hard limits of a namespace, as quantities by resource. -/
structure ResourceQuota where
  ns : String
  hard : Fields String
deriving DecidableEq, Repr

namespace ResourceQuota

/-- How resource quotas are addressed. -/
def resource : Resource :=
  ⟨"v1", "ResourceQuota", "resourcequotas"⟩

/-- The name of the one resource quota that is managed in a namespace. -/
def name : String :=
  "vdc-quota"

/-- How many volumes may be claimed where storage is bounded. -/
def maxVolumeClaims : Nat :=
  10

/-- The hard limits for ceilings; a ceiling of zero sets none. -/
def hardLimits (millicores : Nat) (memoryGi storageGi : UInt32) : List (String × String) :=
  let cpu := Quantity.ofMillicores millicores
  let memory := Quantity.ofGibibytes memoryGi.toNat
  let storage := Quantity.ofGibibytes storageGi.toNat
  (if 0 < millicores then [("requests.cpu", cpu), ("limits.cpu", cpu)] else []) ++
    (if 0 < memoryGi then [("requests.memory", memory), ("limits.memory", memory)] else []) ++
    (if 0 < storageGi then
      [("requests.storage", storage), ("persistentvolumeclaims", toString maxVolumeClaims)]
    else [])

/-- **The resource quota for ceilings.** -/
def ofCeilings (ns : String) (millicores : Nat) (memoryGi storageGi : UInt32) : ResourceQuota :=
  ⟨ns, Fields.ofList (hardLimits millicores memoryGi storageGi)⟩

/-- The metadata of an object that enforces a quota. -/
def managedMetadata (name ns : String) : Json :=
  .ofMembers [("name", .text name), ("namespace", .text ns),
    ("labels", .ofTexts [(Ownership.managerKey, Ownership.manager)])]

/-- A resource quota as an object of the cluster. -/
def toJson (quota : ResourceQuota) : Json :=
  .ofMembers [("apiVersion", .text resource.apiVersion), ("kind", .text resource.kind),
    ("metadata", managedMetadata name quota.ns),
    ("spec", .ofMembers [("hard", .ofTexts quota.hard)])]

end ResourceQuota

end VmProvisioning
