import VmProvisioning.Api.Answer
import VmProvisioning.Cluster.Definition
import VmProvisioning.DnsLabel
import VmProvisioning.Lifecycle
import VmProvisioning.Machine.Status

/-!
# The cluster as a backend

Machines are objects of the cluster, and so are their running instances. Every operation is a
dialogue with the cluster's API.

## Main definitions

* `ClusterSettings`: how long requests may take and where consoles are
* `Cluster.create`, `start`, `stop`, `restart`, `delete`, `status`, `ipAddress`, `consoleUrl`,
  `check`
* `Cluster.ownedKinds`, `Cluster.sweep`: deleting what was made for a machine
* `Cluster.answer`: the backend as a whole
-/

namespace VmProvisioning

open Api

/-- How the cluster is used. -/
structure ClusterSettings where
  /-- The time that a single request may take. -/
  timeout : Duration
  /-- Where consoles are; without it they are reached through the API server. -/
  consoleUrl : Option String
  apiServerUrl : String
deriving DecidableEq, Repr

namespace Cluster

/-- How machine objects are addressed. -/
def machines : Resource :=
  .ofKind Kind.machineApiVersion Kind.machine

/-- How instances are addressed. -/
def instances : Resource :=
  .ofKind Kind.machineApiVersion Kind.machineInstance

variable (settings : ClusterSettings)

/-- An operation on an object of a resource. -/
def concern (operation : String) (resource : Resource) (ns name : String) : Concern :=
  ⟨operation, settings.timeout, resource.kind, ns, name⟩

/-- The object of a machine. -/
def getMachine (id ns : String) : Action Json :=
  exchangeFor (concern settings "get VirtualMachine" machines ns id) (.get machines ns id) object?

/-- The instance of a machine, when it has one. -/
def getInstance (id ns : String) : Action (Option Json) :=
  getOptional (concern settings "get VirtualMachineInstance" instances ns id) instances object?

/-! ## Operations -/

/-- Create the object of a machine. -/
def create (machine : Machine) (datacenter : Datacenter) (template : Template)
    (base : Option Json) : Action Unit := do
  Operation.ofExcept (DnsLabel.validate machine.id)
  let ns := datacenter.workloadNamespace
  let some object := object? (Definition.ofBase machine datacenter template base)
    | throw (.serialization "object has malformed metadata" (some machines.kind))
  exchangeOr (concern settings "create VirtualMachine" machines ns machine.id)
    (.create machines ns object) (fun value => (object? value).map fun _ => ())
    fun trouble =>
      if trouble.isConflict then some (.error (.conflictFor .alreadyExists ns machine.id)) else none

/-- Change the desired run state of a machine. -/
def patchRunning (id ns : String) (object : Json) (isRunning : Bool) : Action Unit :=
  exchangeFor (concern settings "patch VirtualMachine" machines ns id)
    (.merge machines ns id (Definition.runPatch object isRunning))
    fun value => (object? value).map fun _ => ()

/-- Start a machine that is not to run yet. -/
def start (id ns : String) : Action Unit := do
  Operation.ofExcept (DnsLabel.validate id)
  let object ← getMachine settings id ns
  if Definition.wantsRunning object then throw (.conflictFor .alreadyRunning ns id)
  patchRunning settings id ns object true

/-- Stop a machine that is to run. -/
def stop (id ns : String) : Action Unit := do
  Operation.ofExcept (DnsLabel.validate id)
  let object ← getMachine settings id ns
  if !Definition.wantsRunning object then throw (.conflictFor .alreadyStopped ns id)
  patchRunning settings id ns object false

/-- Restart a machine by deleting its instance, which the cluster then makes anew. -/
def restart (id ns : String) : Action Unit := do
  Operation.ofExcept (DnsLabel.validate id)
  let object ← getMachine settings id ns
  if !Definition.wantsRunning object then throw (.conflictFor .notRunning ns id)
  if (← getInstance settings id ns).isNone then throw (.conflictFor .notRunning ns id)
  exchangeOr (concern settings "delete VirtualMachineInstance" instances ns id)
    (.delete instances ns id false) (deletion? object?)
    fun trouble =>
      if trouble.isNotFound then some (.error (.conflictFor .notRunning ns id)) else none

/-- The status of a machine. -/
def status (id ns : String) : Action MachineStatus := do
  Operation.ofExcept (DnsLabel.validate id)
  let object ← getMachine settings id ns
  let inst? ← getInstance settings id ns
  Operation.ofExcept (MachineStatus.ofObjects object inst?)

/-- The address of a running machine. -/
def ipAddress (id ns : String) : Action String := do
  match (← status settings id ns).ipAddress with
  | some address => return address
  | none => throw (.conflictFor .noIpAssigned ns id)

/-- A base address without the slashes at its end. -/
def trimSlashes (url : String) : String :=
  String.ofList (url.toList.reverse.dropWhile (· == '/')).reverse

/-- Where the console of a machine is. -/
def consoleAddress (id ns : String) : String :=
  match settings.consoleUrl with
  | some url =>
    trimSlashes url ++ "/k8s/ns/" ++ ns ++ "/kubevirt.io~v1~VirtualMachine/" ++ id ++
      "/console/standalone"
  | none =>
    trimSlashes settings.apiServerUrl ++ "/apis/subresources.kubevirt.io/v1/namespaces/" ++ ns ++
      "/virtualmachineinstances/" ++ id ++ "/vnc"

/-- The address of the console of a machine that is there. -/
def consoleUrl (id ns : String) : Action String := do
  Operation.ofExcept (DnsLabel.validate id)
  let _ ← getMachine settings id ns
  return consoleAddress settings id ns

/-- What is wrong with the connection. -/
def connectionFault : Trouble → String
  | .refused answer => answer.describe
  | .disconnected message => "ServiceError: " ++ message
  | .timedOut => ""
  | .unreadable => "Error deserializing response"

/-- Whether the API server answers. -/
def check : Action Unit :=
  let operation := "get apiserver version"
  exchangeOr ⟨operation, settings.timeout, "", "", ""⟩ .version
    (fun value => (Schema.serverVersion.read? value).map fun _ => ())
    fun trouble =>
      if trouble = .timedOut then none
      else some (.error (.backendUnavailable (connectionFault trouble)))

/-! ## Deletion -/

/-- **The kinds that are deleted with a machine**: all known ones but the machine and its
instance, which go by themselves. -/
def ownedKinds : List Resource :=
  (Kind.known.filter fun (_, kind, _) => kind ≠ Kind.machine ∧ kind ≠ Kind.machineInstance).map
    fun (apiVersion, kind, _) => .ofKind apiVersion kind

/-- The names of the objects of a kind that were made for a machine. A kind that the cluster does
not have has none. -/
def ownedNames (resource : Resource) (id ns : String) : Action (List String) := do
  let selector := Ownership.selector id
  let objects ← exchangeOr (concern settings "list owned objects" resource ns selector)
    (.list resource ns (some selector)) objects?
    fun trouble => if trouble.isNotFound then some (.ok []) else none
  return objects.filterMap (Json.textAt? · ["metadata", "name"])

/-- Delete an object, which may be gone already. -/
def deleteOwned (resource : Resource) (ns name : String) : Action Unit :=
  exchangeOr (concern settings "delete owned object" resource ns name)
    (.delete resource ns name true) (deletion? object?)
    fun trouble => if trouble.isNotFound then some (.ok ()) else none

/-- The names of several kinds in turns: first the first of every kind, then the second, and so
on. -/
def inTurns (found : List (Resource × List String)) : List (Resource × String) :=
  let turns := (found.map fun (_, names) => names.length).foldl max 0
  (List.range turns).flatMap fun turn =>
    found.filterMap fun (resource, names) => names[turn]?.map fun name => (resource, name)

/-- **Delete everything that was made for a machine**, all kinds side by side. -/
def sweep (id ns : String) : Action Unit := do
  let found ← ownedKinds.mapM fun resource => do
    return (resource, ← ownedNames settings resource id ns)
  (inTurns found).forM fun (resource, name) => deleteOwned settings resource ns name

/-- Delete a machine and everything that was made for it. -/
def delete (id ns : String) : Action Unit := do
  Operation.ofExcept (DnsLabel.validate id)
  exchangeFor (concern settings "delete VirtualMachine" machines ns id)
    (.delete machines ns id true) (deletion? object?)
  sweep settings id ns

/-! ## The backend -/

/-- **The backend as a whole**: the dialogue for a call. -/
def answer : (call : Call) → Dialogue call.Reply
  | .create machine datacenter template base =>
    (create settings machine datacenter template base).run
  | .start id ns => (start settings id ns).run
  | .stop id ns => (stop settings id ns).run
  | .restart id ns => (restart settings id ns).run
  | .delete id ns => (delete settings id ns).run
  | .status id ns => (status settings id ns).run
  | .ipAddress id ns => (ipAddress settings id ns).run
  | .consoleUrl id ns => (consoleUrl settings id ns).run
  | .check => (check settings).run

end Cluster

end VmProvisioning
