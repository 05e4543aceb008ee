import VmProvisioning.Api.Schema
import VmProvisioning.Datacenter
import VmProvisioning.Quota.ResourceQuota

/-!
# Limit ranges

The bounds of a single machine as an object of the cluster, which bounds every container of a
namespace.

## Main definitions

* `LimitRange`: the object, a list of limits for types of things
* `LimitRange.ofBounds`: the object for bounds
* `LimitInfo.ofLimitRange`: the bounds of an object
-/

namespace VmProvisioning

/-- The limits of one type of things, as quantities by resource. -/
structure Limits where
  type : String
  min : Fields String
  max : Fields String
  default : Fields String
  defaultRequest : Fields String
deriving DecidableEq, Repr

namespace Limits

/-- Limits as a JSON value. -/
def toJson (limits : Limits) : Json :=
  .ofMembers [("type", .text limits.type), ("min", .ofTexts limits.min),
    ("max", .ofTexts limits.max), ("default", .ofTexts limits.default),
    ("defaultRequest", .ofTexts limits.defaultRequest)]

/-- Limits from a JSON value, where missing quantities count as none. -/
def ofJson (value : Json) : Limits where
  type := (value.textAt? ["type"]).getD ""
  min := value.textsAt ["min"]
  max := value.textsAt ["max"]
  default := value.textsAt ["default"]
  defaultRequest := value.textsAt ["defaultRequest"]

end Limits

/-- **A limit range.** -/
structure LimitRange where
  ns : String
  limits : List Limits
deriving DecidableEq, Repr

namespace LimitRange

/-- How limit ranges are addressed. -/
def resource : Resource :=
  ⟨"v1", "LimitRange", "limitranges"⟩

/-- The name of the one limit range that is managed in a namespace. -/
def name : String :=
  "vdc-limits"

/-- The type of limits that bound a machine. -/
def containerType : String :=
  "Container"

/-- Quantities of processors, in milli-cores, and memory. -/
def amounts (cpu memoryGi : UInt32) : Fields String :=
  [("cpu", toString (cpu.toNat * 1000) ++ "m"), ("memory", Quantity.ofGibibytes memoryGi.toNat)]

/-- **The limit range for bounds.** A machine that asks for nothing gets the most and reserves the
least. -/
def ofBounds (ns : String) (bounds : Bounds) : LimitRange :=
  let least := amounts bounds.minCpu bounds.minMemoryGi
  let most := amounts bounds.maxCpu bounds.maxMemoryGi
  ⟨ns, [⟨containerType, least, most, most, least⟩]⟩

/-- A limit range as an object of the cluster. -/
def toJson (range : LimitRange) : Json :=
  .ofMembers [("apiVersion", .text resource.apiVersion), ("kind", .text resource.kind),
    ("metadata", ResourceQuota.managedMetadata name range.ns),
    ("spec", .ofMembers [("limits", .array (range.limits.map Limits.toJson))])]

/-- Read a limit range. -/
def ofJson? (value : Json) : Option LimitRange :=
  (Schema.limitRange.read? value).map fun object =>
    ⟨(object.textAt? ["metadata", "namespace"]).getD "",
      (object.itemsAt ["spec", "limits"]).map Limits.ofJson⟩

end LimitRange

/-- The bounds that are in force in a namespace, in processors and GiB. -/
structure LimitInfo where
  isPresent : Bool
  minCpu : UInt32
  maxCpu : UInt32
  minMemory : UInt32
  maxMemory : UInt32
deriving DecidableEq, Repr

namespace LimitInfo

/-- No bounds, for a namespace without a limit range. -/
def absent : LimitInfo :=
  ⟨false, 0, 0, 0, 0⟩

/-- The low 32 bits of an amount in a unit; an amount that cannot be read is zero. -/
def inUnits (amount : Option (Except Failure Nat)) (unit : Nat) : UInt32 :=
  match amount with
  | some (.ok amount) => UInt32.ofNat (amount / unit)
  | _ => 0

/-- Whole processors among quantities. -/
def cores (quantities : Fields String) : UInt32 :=
  inUnits ((Fields.get? quantities "cpu").map Quantity.millicores) 1000

/-- Whole GiB of memory among quantities. -/
def gibibytes (quantities : Fields String) : UInt32 :=
  inUnits ((Fields.get? quantities "memory").map Quantity.bytes) Quantity.gibibyte

/-- **The bounds of a limit range**: the first limits for containers count. -/
def ofLimitRange (range : LimitRange) : LimitInfo :=
  match range.limits.find? fun limits => limits.type == LimitRange.containerType with
  | some limits =>
    ⟨true, cores limits.min, cores limits.max, gibibytes limits.min, gibibytes limits.max⟩
  | none => ⟨true, 0, 0, 0, 0⟩

end LimitInfo

end VmProvisioning
