import VmProvisioning.Deployment.Request
import VmProvisioning.DnsLabel
import VmProvisioning.Kind
import VmProvisioning.Ownership
import VmProvisioning.Template.Binding
import VmProvisioning.Template.Reference

/-!
# Manifests

The objects of a template become manifests for one machine: the parameters are bound and put in,
and every object is moved to the namespace of the request and labelled with its owner.

## Main definitions

* `Manifest`: an object ready to be created
* `Manifest.own`: namespace and labels of an object
* `Materialized`: the manifests of a request, with `Materialized.ofTemplate`
-/

namespace VmProvisioning

/-- **A manifest**: an object ready to be created, with what addresses it. -/
structure Manifest where
  resource : Resource
  name : String
  ns : String
  object : Json
deriving DecidableEq

namespace Manifest

/-- Whether the object is a virtual machine. -/
def isMachine (manifest : Manifest) : Bool :=
  manifest.resource.kind == Kind.machine &&
    Text.beginsWith manifest.resource.apiVersion "kubevirt.io/"

/-- Labels put over those that are there; what is no object gives way. -/
def relabel (labels : Fields String) (present : Option Json) : Json :=
  let members :=
    match present with
    | some (.object members) => members
    | _ => []
  .object (labels.foldl (fun members (key, value) => Fields.insert members key (.text value))
    members)

/-- The metadata of an object with a namespace and labels. -/
def ownMetadata (ns : String) (labels : Fields String) : Json → Json
  | .object members =>
    let members := Fields.insert members "namespace" (.text ns)
    .object (Fields.insert members "labels" (relabel labels (Fields.get? members "labels")))
  | metadata => metadata

/-- **An object with a namespace and labels.** -/
def own (ns : String) (labels : Fields String) : Json → Json
  | .object members =>
    let metadata := (Fields.get? members "metadata").getD (.object [])
    .object (Fields.insert members "metadata" (ownMetadata ns labels metadata))
  | object => object

/-- The manifest of an object. `place` names the object where its own name is not known. -/
def ofObject (place ns : String) (labels : Fields String) (object : Json) :
    Except Failure Manifest := do
  let some kind := object.nonEmptyTextAt? ["kind"]
    | throw (.materialization "Unknown" place .noKind)
  let some apiVersion := object.nonEmptyTextAt? ["apiVersion"]
    | throw (.materialization kind place .noApiVersion)
  let some name := object.nonEmptyTextAt? ["metadata", "name"]
    | throw (.materialization kind place .noName)
  return ⟨.ofKind apiVersion kind, name, ns, own ns labels object⟩

/-- The manifests of objects, the first of which stands at `index` in the template. -/
def ofObjects (templateId ns : String) (labels : Fields String) :
    (index : Nat) → List Json → Except Failure (List Manifest)
  | _, [] => .ok []
  | index, object :: rest => do
    let place := templateId ++ "[" ++ toString index ++ "]"
    let manifest ← ofObject place ns labels object
    return manifest :: (← ofObjects templateId ns labels (index + 1) rest)

end Manifest

/-- **What a template becomes for one machine.** -/
structure Materialized where
  /-- The id of the machine. -/
  machineId : String
  parameters : Fields String
  /-- In the order of the template. -/
  manifests : List Manifest
deriving DecidableEq

namespace Materialized

/-- The parameters that every request binds: the machine's name, its namespace and, when it is
given, the size of its disk. -/
def overrides (request : DeployRequest) : Fields String :=
  Fields.ofList ([("NAME", DnsLabel.sanitize request.machineName), ("NAMESPACE", request.ns)] ++
    (request.diskSize.map fun size => ("DISK_SIZE", size)).toList)

/-- **Materialize a template** for a request. -/
def ofTemplate {σ : Type} (source : RandomSource σ) (state : σ) (template : Template)
    (request : DeployRequest) : Except Failure Materialized := do
  let machineId := DnsLabel.sanitize request.machineName
  let parameters ← Binding.bind source template.id template.parameters (overrides request) state
  let labels := Ownership.labels machineId request.datacenterId template.id
  let manifests ← Manifest.ofObjects template.id request.ns labels 0
    (template.objects.map (Reference.fill parameters))
  return ⟨machineId, parameters, manifests⟩

end Materialized

end VmProvisioning
