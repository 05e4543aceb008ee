import VmProvisioning.Deployment.Manifest
import VmProvisioning.Interaction
import VmProvisioning.Lifecycle
import VmProvisioning.Quota.Admission

/-!
# Deployment of machines

A request becomes a machine in four steps: the template is fetched, the machine is checked against
its datacenter, it is created, and its companions are submitted. When a companion is not accepted
the machine is deleted again. Nothing is created before all checks have passed.

## Main definitions

* `Plan`: what a request amounts to, with `Plan.ofRequest`
* `DeployQuery`: what a deployment asks its surroundings
* `deploy`: the deployment of a request
-/

namespace VmProvisioning

/-! ## Plans -/

/-- **What a request amounts to**: the machine, the object it is based on, and the other objects
of its template in order. -/
structure Plan where
  machine : Machine
  base : Option Json
  companions : List Manifest
deriving DecidableEq

namespace Plan

/-- Refuse a request for another datacenter or another namespace than the datacenter's. -/
def checkTarget (request : DeployRequest) (datacenter : Datacenter) : Except Failure Unit :=
  if request.datacenterId ≠ datacenter.id then
    .error (.validation (.otherDatacenter request.datacenterId datacenter.id))
  else if request.ns ≠ "" ∧ request.ns ≠ datacenter.workloadNamespace then
    .error (.validation
      (.otherNamespace request.ns datacenter.workloadNamespace datacenter.id))
  else .ok ()

/-- The machine that a request asks for. -/
def requestedMachine (template : Template) (request : DeployRequest) : Machine :=
  .new (DnsLabel.sanitize request.machineName) request.machineName template.cpu template.memory
    (request.diskSize.getD template.diskSize)

variable {σ : Type}

/-- **The plan for a request**, when the datacenter has room for the machine. -/
def ofRequest (source : RandomSource σ) (state : σ) (template : Template) (request : DeployRequest)
    (datacenter : Datacenter) : Except Failure Plan := do
  let machine := requestedMachine template request
  datacenter.checkCeilings machine
  let materialized ← Materialized.ofTemplate source state template
    { request with ns := datacenter.workloadNamespace }
  let manifests := materialized.manifests
  return {
    machine
    base := (manifests.find? Manifest.isMachine).map Manifest.object
    companions := manifests.filter (!·.isMachine) }

end Plan

/-! ## The deployment -/

/-- **What a deployment asks its surroundings.** -/
inductive DeployQuery where
  /-- The raw template of a name. -/
  | fetch (templateId : String)
  /-- An operation of the backend. -/
  | call (call : Call)
  /-- Create a companion. -/
  | submit (manifest : Manifest)

/-- What the surroundings of a deployment answer. -/
abbrev DeployQuery.Reply : DeployQuery → Type
  | fetch _ => Except Failure Json
  | call operation => operation.Reply
  | submit _ => Except Failure Unit

/-- The operations of a deployment. -/
abbrev DeployAction (α : Type) :=
  Operation DeployQuery DeployQuery.Reply α

/-- A machine that has been deployed. -/
structure Deployed where
  machine : Machine
  ns : String
  template : Template
  companions : List Manifest
deriving DecidableEq

/-- Fetch a raw template. -/
def DeployAction.fetch (templateId : String) : DeployAction Json :=
  ExceptT.mk (.ask (.fetch templateId) .done)

/-- Create a machine. -/
def DeployAction.create (plan : Plan) (datacenter : Datacenter) (template : Template) :
    DeployAction Unit :=
  ExceptT.mk (.ask (.call (.create plan.machine datacenter template plan.base)) .done)

/-- Delete a machine, whether or not that succeeds. -/
def DeployAction.abandon (id ns : String) : DeployAction Unit :=
  ExceptT.mk (.ask (.call (.delete id ns)) fun _ => .done (.ok ()))

/-- Submit a companion. -/
def DeployAction.submit (manifest : Manifest) : DeployAction Unit :=
  ExceptT.mk (.ask (.submit manifest) fun
    | .ok () => .done (.ok ())
    | .error failure =>
      .done (.error (.submission manifest.resource.kind manifest.name failure)))

variable {σ : Type}

/-- Create a machine and submit its companions in order, up to the first that is not accepted. The
machine is deleted again then. -/
def carryOut (plan : Plan) (datacenter : Datacenter) (template : Template) : DeployAction Unit := do
  DeployAction.create plan datacenter template
  tryCatch (plan.companions.forM DeployAction.submit) fun failure => do
    DeployAction.abandon plan.machine.id datacenter.workloadNamespace
    throw failure

/-- **The deployment of a request** in a datacenter. -/
def deploy (source : RandomSource σ) (state : σ) (request : DeployRequest)
    (datacenter : Datacenter) : DeployAction Deployed := do
  Operation.ofExcept (Plan.checkTarget request datacenter)
  let raw ← DeployAction.fetch request.templateId
  let template ← Operation.ofExcept (Template.ofRaw raw)
  let plan ← Operation.ofExcept (Plan.ofRequest source state template request datacenter)
  carryOut plan datacenter template
  return ⟨plan.machine, datacenter.workloadNamespace, template, plan.companions⟩

end VmProvisioning
