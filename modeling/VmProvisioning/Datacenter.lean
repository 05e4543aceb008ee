import VmProvisioning.Json.Record
import VmProvisioning.Failure

/-!
# Virtual datacenters

A virtual datacenter is the share of one tenant: a namespace for its machines and ceilings for
what they use together. A ceiling of zero is no ceiling.

## Main definitions

* `Ceilings`: what all machines of a datacenter may use together
* `Bounds`: what a single machine has to use at least and may use at most
* `Datacenter`: a datacenter by its name and specification
-/

namespace VmProvisioning

/-- What all machines of a datacenter may use together; zero is no ceiling. -/
structure Ceilings where
  cpu : UInt32
  memoryGi : UInt32
  storageGi : UInt32
deriving DecidableEq, Repr

namespace Ceilings

/-- Ceilings as a JSON value. -/
def toJson (ceilings : Ceilings) : Json :=
  .ofMembers [("cpu", .ofUInt32 ceilings.cpu), ("memoryGi", .ofUInt32 ceilings.memoryGi),
    ("storageGi", .ofUInt32 ceilings.storageGi)]

/-- Read ceilings. -/
def ofJson? : Json → Option Ceilings :=
  Json.record? do
    return {
      cpu := ← Json.defaulted "cpu" Json.uint32? 0
      memoryGi := ← Json.defaulted "memoryGi" Json.uint32? 0
      storageGi := ← Json.defaulted "storageGi" Json.uint32? 0 }

end Ceilings

/-- What a single machine has to use at least and may use at most. -/
structure Bounds where
  minCpu : UInt32
  maxCpu : UInt32
  minMemoryGi : UInt32
  maxMemoryGi : UInt32
deriving DecidableEq, Repr

namespace Bounds

/-- Bounds as a JSON value. -/
def toJson (bounds : Bounds) : Json :=
  .ofMembers [("minCpu", .ofUInt32 bounds.minCpu), ("maxCpu", .ofUInt32 bounds.maxCpu),
    ("minMemoryGi", .ofUInt32 bounds.minMemoryGi), ("maxMemoryGi", .ofUInt32 bounds.maxMemoryGi)]

/-- Read bounds. -/
def ofJson? : Json → Option Bounds :=
  Json.record? do
    return {
      minCpu := ← Json.required "minCpu" Json.uint32?
      maxCpu := ← Json.required "maxCpu" Json.uint32?
      minMemoryGi := ← Json.required "minMemoryGi" Json.uint32?
      maxMemoryGi := ← Json.required "maxMemoryGi" Json.uint32? }

/-- Refuse bounds that no machine can keep. -/
def validate (bounds : Bounds) : Except Failure Unit :=
  if bounds.maxCpu < bounds.minCpu then
    .error (.validation (.cpuBounds bounds.minCpu bounds.maxCpu))
  else if bounds.maxMemoryGi < bounds.minMemoryGi then
    .error (.validation (.memoryBounds bounds.minMemoryGi bounds.maxMemoryGi))
  else .ok ()

end Bounds

/-- What a tenant has ordered. -/
structure DatacenterSpec where
  organization : String
  /-- The namespace of the machines. -/
  workloadNamespace : String
  quota : Ceilings
  limitRange : Option Bounds
deriving DecidableEq, Repr

namespace DatacenterSpec

/-- A specification as a JSON value. -/
def toJson (spec : DatacenterSpec) : Json :=
  .ofMembers ([("organization", .text spec.organization),
    ("workloadNamespace", .text spec.workloadNamespace), ("quota", spec.quota.toJson)] ++
    Json.ofOptional "limitRange" Bounds.toJson spec.limitRange)

/-- Read a specification. -/
def ofJson? : Json → Option DatacenterSpec :=
  Json.record? do
    return {
      organization := ← Json.required "organization" Json.text?
      workloadNamespace := ← Json.required "workloadNamespace" Json.text?
      quota := ← Json.required "quota" Ceilings.ofJson?
      limitRange := ← Json.optional "limitRange" Bounds.ofJson? }

end DatacenterSpec

/-- **A virtual datacenter**: `id` is the name of the object that specifies it. -/
structure Datacenter where
  id : String
  spec : DatacenterSpec
deriving DecidableEq, Repr

/-- The namespace of the machines of a datacenter. -/
def Datacenter.workloadNamespace (datacenter : Datacenter) : String :=
  datacenter.spec.workloadNamespace

end VmProvisioning
