import VmProvisioning.DnsLabel
import VmProvisioning.Kind
import VmProvisioning.Lifecycle
import VmProvisioning.Ownership
import VmProvisioning.Simulation.Address
import VmProvisioning.Text.Search

/-!
# The simulated backend

Machines in a registry in memory, with addresses from a simulated network. Every operation is a
function on the registry; one that fails leaves the registry as it was.

## Main definitions

* `Registry`: the machines by their keys
* `Registry.freeAddress`: the address for a machine that is started
* `Registry.create`, `start`, `stop`, `restart`, `delete`, `status`, `ipAddress`, `consoleUrl`
* `Registry.answer`: the backend as a whole
-/

namespace VmProvisioning

/-- A machine in the registry. -/
structure Registered where
  machine : Machine
  datacenterId : String
  templateId : String
  phase : Phase
  /-- The address while the machine is running. -/
  ipAddress : Option String
  createdAt : String
deriving DecidableEq, Repr

namespace Registered

/-- The node that hosts all simulated machines. -/
def node : String :=
  "simulated-node-0"

/-- The annotation with the time of creation. -/
def createdAtKey : String :=
  "vdc.dev/created-at"

/-- Whether the machine is running. -/
def isRunning (registered : Registered) : Bool :=
  registered.phase == .running

/-- The status of a registered machine. -/
def status (registered : Registered) : MachineStatus where
  phase := registered.phase
  ready := registered.isRunning
  ipAddress := registered.ipAddress
  nodeName := if registered.isRunning then some node else none
  conditions :=
    [if registered.isRunning then ⟨"Ready", "True", ""⟩ else ⟨"Ready", "False", "VMINotExists"⟩]
  interfaces := (registered.ipAddress.map fun ip => ⟨"default", ip, Address.mac ip⟩).toList
  annotations := Fields.ofList [(Ownership.datacenterKey, registered.datacenterId),
    (Ownership.templateKey, registered.templateId), (createdAtKey, registered.createdAt)]

/-- The machine in another phase, with the address that belongs to it. -/
def enter (registered : Registered) (phase : Phase) (ipAddress : Option String) : Registered :=
  { registered with
    machine := { registered.machine with status := phase.name }
    phase
    ipAddress }

/-- The machine on another address. -/
def readdress (registered : Registered) (address : String) : Registered :=
  { registered with ipAddress := some address }

end Registered

/-- **The registry**: machines by namespace and id, joined by a slash. -/
abbrev Registry :=
  Fields Registered

namespace Registry

/-- Where consoles are found. -/
def consoleBase : String :=
  "https://console.simulated.local/vm"

/-- The key of a machine; only a DNS label is an id. -/
def key (id ns : String) : Except Failure String := do
  DnsLabel.validate id
  return ns ++ "/" ++ id

/-- The failure for a machine that is not there. -/
def notFound (id ns : String) : Failure :=
  .notFound Kind.machine ns id

/-- The addresses that are in use by machines other than the one at `key`. -/
def othersAddresses (registry : Registry) (key : String) : List String :=
  (registry.filter fun (k, _) => k ≠ key).filterMap fun (_, registered) => registered.ipAddress

/-- The `n`-th address to try in a registry of that size. -/
def candidate (size n : Nat) : String :=
  Address.text (Address.poolBase + Address.poolOffset + UInt32.ofNat size + UInt32.ofNat n)

/-- **A free address** for the machine at `key`: the first one, counted from the size of the
registry, that no other machine has. One attempt more than there are other machines is enough. -/
def freeAddress (registry : Registry) (key : String) : String :=
  let taken := othersAddresses registry key
  let attempts := (List.range (registry.length + 1)).map (candidate registry.length)
  (attempts.find? fun address => !taken.contains address).getD (candidate registry.length 0)

/-- The machine at a key. -/
def find (registry : Registry) (id ns : String) : Except Failure Registered := do
  match Fields.get? registry (← key id ns) with
  | some registered => return registered
  | none => throw (notFound id ns)

/-- Change the machine at a key; `change` is given a free address. -/
def update (registry : Registry) (id ns : String)
    (change : Registered → String → Except Failure Registered) : Except Failure Registry := do
  let key ← key id ns
  match Fields.get? registry key with
  | some registered =>
    return Fields.insert registry key (← change registered (freeAddress registry key))
  | none => throw (notFound id ns)

/-- Register a machine, which is stopped at first. -/
def create (registry : Registry) (machine : Machine) (datacenter : Datacenter)
    (templateId createdAt : String) : Except Failure Registry := do
  let ns := datacenter.workloadNamespace
  let key ← key machine.id ns
  if Fields.contains registry key then throw (.conflictFor .alreadyExists ns machine.id)
  let registered : Registered := ⟨machine, datacenter.id, templateId, .stopped, none, createdAt⟩
  return Fields.insert registry key (registered.enter .stopped none)

/-- Start a stopped machine on a free address. -/
def start (registry : Registry) (id ns : String) : Except Failure Registry :=
  update registry id ns fun registered address =>
    if registered.isRunning then .error (.conflictFor .alreadyRunning ns id)
    else .ok (registered.enter .running (some address))

/-- Stop a running machine, which gives up its address. -/
def stop (registry : Registry) (id ns : String) : Except Failure Registry :=
  update registry id ns fun registered _ =>
    if registered.isRunning then .ok (registered.enter .stopped none)
    else .error (.conflictFor .alreadyStopped ns id)

/-- Restart a running machine on a free address. -/
def restart (registry : Registry) (id ns : String) : Except Failure Registry :=
  update registry id ns fun registered address =>
    if registered.isRunning then .ok (registered.readdress address)
    else .error (.conflictFor .notRunning ns id)

/-- Delete a machine. -/
def delete (registry : Registry) (id ns : String) : Except Failure Registry := do
  let key ← key id ns
  if Fields.contains registry key then return Fields.erase registry key
  else throw (notFound id ns)

/-- The status of a machine. -/
def status (registry : Registry) (id ns : String) : Except Failure MachineStatus :=
  (registry.find id ns).map Registered.status

/-- The address of a machine. -/
def ipAddress (registry : Registry) (id ns : String) : Except Failure String := do
  match (← registry.find id ns).ipAddress with
  | some address => return address
  | none => throw (.conflictFor .noIpAssigned ns id)

/-- The address of the console of a machine. -/
def consoleUrl (registry : Registry) (id ns : String) : Except Failure String :=
  (registry.find id ns).map fun _ => consoleBase ++ "/" ++ ns ++ "/" ++ id

/-- **The ids of the machines in a namespace**, in order. -/
def idsIn (registry : Registry) (ns : String) : List String :=
  (Fields.keys registry).filterMap fun key =>
    (Text.dropPrefix? (ns ++ "/").toList key.toList).map String.ofList

/-! ## The backend -/

/-- The outcome of an operation on the registry, and the registry after it. -/
def settle (registry : Registry) : Except Failure Registry → Except Failure Unit × Registry
  | .ok registry => (.ok (), registry)
  | .error failure => (.error failure, registry)

/-- **The backend as a whole**: the answer to a call, and the registry after it. `now` is the time
of the call. -/
def answer (now : String) (call : Call) : StateM Registry call.Reply := fun registry =>
  match call with
  | .create machine datacenter template _ =>
    registry.settle (registry.create machine datacenter template.id now)
  | .start id ns => registry.settle (registry.start id ns)
  | .stop id ns => registry.settle (registry.stop id ns)
  | .restart id ns => registry.settle (registry.restart id ns)
  | .delete id ns => registry.settle (registry.delete id ns)
  | .status id ns => (registry.status id ns, registry)
  | .ipAddress id ns => (registry.ipAddress id ns, registry)
  | .consoleUrl id ns => (registry.consoleUrl id ns, registry)
  | .check => (.ok (), registry)

end Registry

end VmProvisioning
