import VmProvisioning.Datacenter
import VmProvisioning.Machine.Basic
import VmProvisioning.Quantity

/-!
# Admission of machines

A machine is admitted to a datacenter when none of its resources exceeds the ceiling. Processors
are checked first, then memory, then storage.

## Main definitions

* `Datacenter.checkCeilings`: refuses a machine that exceeds a ceiling
-/

namespace VmProvisioning

/-- Refuse a quantity that exceeds a ceiling in GiB, where zero is no ceiling. -/
def Dimension.checkCeiling (dimension : Dimension) (quantity : String) (ceiling : UInt32) :
    Except Failure Unit := do
  let bytes ← Quantity.bytes quantity
  if 0 < ceiling ∧ ceiling.toNat * Quantity.gibibyte < bytes then
    throw (.resourceExceeded dimension quantity (Quantity.ofGibibytes ceiling.toNat))

/-- **Refuse a machine that exceeds a ceiling** of its datacenter. -/
def Datacenter.checkCeilings (datacenter : Datacenter) (machine : Machine) :
    Except Failure Unit := do
  let quota := datacenter.spec.quota
  if 0 < quota.cpu ∧ quota.cpu < machine.cpu then
    throw (.resourceExceeded .cpu (toString machine.cpu) (toString quota.cpu))
  Dimension.memory.checkCeiling machine.memory quota.memoryGi
  Dimension.storage.checkCeiling machine.diskSize quota.storageGi

end VmProvisioning
