import VmProvisioning.Json.Record

/-!
# Virtual machines and their status

## Main definitions

* `Machine`: a machine as the backends know it
* `Phase`: where a machine is in its life
* `MachineStatus`: the canonical status of a machine, made anew for every query
-/

namespace VmProvisioning

/-- Where a machine is in its life. -/
inductive Phase where
  /-- Defined and not running. -/
  | stopped
  /-- An instance is running. -/
  | running
  /-- Storage or instance are being prepared. -/
  | provisioning
  /-- Any other phase the platform reports. -/
  | other (name : String)
deriving DecidableEq, Repr

namespace Phase

/-- The name of a phase, as the platform reports it. -/
def name : Phase → String
  | stopped => "Stopped"
  | running => "Running"
  | provisioning => "Provisioning"
  | other name => name

/-- The phase of a name. -/
def ofName : String → Phase
  | "Stopped" => stopped
  | "Running" => running
  | "Provisioning" => provisioning
  | name => other name

/-- Whether a phase is one of those with a meaning of their own. -/
def isKnown : Phase → Bool
  | other _ => false
  | _ => true

/-- A phase as a JSON value, its name. -/
def toJson (phase : Phase) : Json :=
  .text phase.name

/-- Read a phase by its name. -/
def ofJson? (value : Json) : Option Phase :=
  value.text?.map ofName

end Phase

/-- A virtual machine: `id` is unique in its namespace, memory and disk are quantities. -/
structure Machine where
  id : String
  name : String
  cpu : UInt32
  memory : String
  diskSize : String
  status : String
deriving DecidableEq, Repr

namespace Machine

/-- A new machine, which is stopped. -/
def new (id name : String) (cpu : UInt32) (memory diskSize : String) : Machine :=
  ⟨id, name, cpu, memory, diskSize, Phase.stopped.name⟩

/-- A machine as a JSON value. -/
def toJson (machine : Machine) : Json :=
  .ofMembers [("id", .text machine.id), ("name", .text machine.name),
    ("cpu", .ofUInt32 machine.cpu), ("memory", .text machine.memory),
    ("diskSize", .text machine.diskSize), ("status", .text machine.status)]

/-- Read a machine. -/
def ofJson? : Json → Option Machine :=
  Json.record? do
    return {
      id := ← Json.required "id" Json.text?
      name := ← Json.required "name" Json.text?
      cpu := ← Json.required "cpu" Json.uint32?
      memory := ← Json.required "memory" Json.text?
      diskSize := ← Json.required "diskSize" Json.text?
      status := ← Json.defaulted "status" Json.text? "" }

end Machine

/-- A condition that the platform reports on a machine. -/
structure Condition where
  type : String
  status : String
  reason : String
deriving DecidableEq, Repr

namespace Condition

/-- A condition as a JSON value. -/
def toJson (condition : Condition) : Json :=
  .ofMembers [("type", .text condition.type), ("status", .text condition.status),
    ("reason", .text condition.reason)]

/-- Read a condition. -/
def ofJson? : Json → Option Condition :=
  Json.record? do
    return {
      type := ← Json.required "type" Json.text?
      status := ← Json.required "status" Json.text?
      reason := ← Json.required "reason" Json.text? }

end Condition

/-- A network interface of a running instance; the address is empty until it is assigned. -/
structure NetworkInterface where
  name : String
  ipAddress : String
  mac : String
deriving DecidableEq, Repr

namespace NetworkInterface

/-- A network interface as a JSON value. -/
def toJson (interface : NetworkInterface) : Json :=
  .ofMembers [("name", .text interface.name), ("ipAddress", .text interface.ipAddress),
    ("mac", .text interface.mac)]

/-- Read a network interface. -/
def ofJson? : Json → Option NetworkInterface :=
  Json.record? do
    return {
      name := ← Json.required "name" Json.text?
      ipAddress := ← Json.required "ipAddress" Json.text?
      mac := ← Json.required "mac" Json.text? }

end NetworkInterface

/-- **The canonical status of a machine.** -/
structure MachineStatus where
  phase : Phase
  ready : Bool
  /-- The first address of an interface that is not empty. -/
  ipAddress : Option String
  /-- The node that hosts the instance. -/
  nodeName : Option String
  conditions : List Condition
  interfaces : List NetworkInterface
  annotations : Fields String
deriving DecidableEq, Repr

namespace MachineStatus

/-- A status as a JSON value. -/
def toJson (status : MachineStatus) : Json :=
  .ofMembers ([("phase", status.phase.toJson), ("ready", .bool status.ready)] ++
    Json.ofOptional "ipAddress" .text status.ipAddress ++
    Json.ofOptional "nodeName" .text status.nodeName ++
    [("conditions", .array (status.conditions.map Condition.toJson)),
     ("interfaces", .array (status.interfaces.map NetworkInterface.toJson)),
     ("annotations", .ofTexts status.annotations)])

/-- Read a status. -/
def ofJson? : Json → Option MachineStatus :=
  Json.record? do
    return {
      phase := ← Json.required "phase" Phase.ofJson?
      ready := ← Json.required "ready" Json.bool?
      ipAddress := ← Json.optional "ipAddress" Json.text?
      nodeName := ← Json.optional "nodeName" Json.text?
      conditions := ← Json.defaulted "conditions" (Json.list? Condition.ofJson?) []
      interfaces := ← Json.defaulted "interfaces" (Json.list? NetworkInterface.ofJson?) []
      annotations := ← Json.defaulted "annotations" Json.textFields? [] }

end MachineStatus

end VmProvisioning
