import VmProvisioning.Machine.Basic
import VmProvisioning.Failure

/-!
# Status from the cluster's objects

The cluster has two objects for a machine: a lasting one and, while it runs, an instance. Both
are folded into one status. Everything missing or of another type counts as empty; only a lasting
object that is no JSON object is a failure.

## Main definitions

* `MachineStatus.ofObjects`: the status of a machine
-/

namespace VmProvisioning

/-- The text under a key of a JSON object, empty when there is none. -/
def textOrEmpty (value : Json) (key : String) : String :=
  (value.textAt? [key]).getD ""

/-- A condition from any JSON value. -/
def Condition.ofReport (entry : Json) : Condition :=
  ⟨textOrEmpty entry "type", textOrEmpty entry "status", textOrEmpty entry "reason"⟩

/-- A network interface from any JSON value. -/
def NetworkInterface.ofReport (entry : Json) : NetworkInterface :=
  ⟨textOrEmpty entry "name", textOrEmpty entry "ipAddress", textOrEmpty entry "mac"⟩

/-- The phase that the instance reports, else the readiness of the machine. Without an instance
the machine is stopped. -/
def Phase.ofInstance (inst? : Option Json) (ready : Bool) : Phase :=
  match inst? with
  | none => .stopped
  | some inst =>
    match inst.nonEmptyTextAt? ["status", "phase"] with
    | some name => .ofName name
    | none => if ready then .running else .stopped

/-- **The status of a machine** from its lasting object and its instance. -/
def MachineStatus.ofObjects (primary : Json) (inst? : Option Json) :
    Except Failure MachineStatus :=
  if !primary.isObject then
    .error (.serialization "primary object is not a map" (some "VirtualMachine"))
  else
    let inst? := inst?.filter Json.isObject
    let ready := (primary.boolAt? ["status", "ready"]).getD false
    let interfaces :=
      (inst?.map (Json.itemsAt · ["status", "interfaces"])).getD []
        |>.map NetworkInterface.ofReport
    .ok {
      phase := .ofInstance inst? ready
      ready
      ipAddress := (interfaces.map NetworkInterface.ipAddress).find? (· ≠ "")
      nodeName := inst?.bind (Json.nonEmptyTextAt? · ["status", "nodeName"])
      conditions := (primary.itemsAt ["status", "conditions"]).map Condition.ofReport
      interfaces
      annotations := primary.textsAt ["metadata", "annotations"] }

end VmProvisioning
