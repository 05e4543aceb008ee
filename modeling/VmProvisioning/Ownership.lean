import VmProvisioning.Fields

/-!
# Ownership labels

Every object made for a machine carries labels that say for which machine, in which datacenter
and from which template it was made. The label with the machine is how the objects of a machine
are found again.

## Main definitions

* `Ownership.labels`: the labels of an object
* `Ownership.selector`: selects the objects of a machine
-/

namespace VmProvisioning.Ownership

/-- The label with the id of the machine. -/
def machineKey : String :=
  "vdc.dev/vm-id"

/-- The label with the id of the datacenter. -/
def datacenterKey : String :=
  "vdc.dev/vdc-id"

/-- The label with the id of the template. -/
def templateKey : String :=
  "vdc.dev/template-id"

/-- The label with the name of the manager. -/
def managerKey : String :=
  "app.kubernetes.io/managed-by"

/-- The manager of all objects. It also owns the fields that are applied, unless another manager is
set for them. -/
def manager : String :=
  "vdc-provisioner"

/-- The annotation with the name of a machine as it was asked for. -/
def displayNameKey : String :=
  "vdc.dev/display-name"

/-- **The labels of an object** that is made for a machine. -/
def labels (machineId datacenterId templateId : String) : Fields String :=
  Fields.ofList [(machineKey, machineId), (datacenterKey, datacenterId),
    (templateKey, templateId), (managerKey, manager)]

/-- Selects the objects of a machine. -/
def selector (machineId : String) : String :=
  machineKey ++ "=" ++ machineId

end VmProvisioning.Ownership
