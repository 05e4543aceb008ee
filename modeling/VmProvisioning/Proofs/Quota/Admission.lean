import VmProvisioning.Proofs.Fields
import VmProvisioning.Proofs.Quantity
import VmProvisioning.Quota.Admission
import VmProvisioning.Quota.ResourceQuota

/-!
# Admission against the resource quota

A machine is admitted by comparing numbers. The resource quota of its namespace says the same in
texts, which leave out a ceiling of zero and are read back with the rounding of doubles. Both come
to the same verdict: what the check admits keeps every ceiling of the quota, and what it refuses
exceeds the one that it names.

## Main definitions

* `Ceilings.resourceQuota`: the resource quota that is applied for the ceilings of a datacenter
* `ResourceQuota.limit?`: the ceiling of a dimension as it stands in a quota
* `ResourceQuota.IsExceeded`: a machine asks for more than a quota allows

## Main results

* `Dimension.amount_limit`: ceilings are read back from their words
* `Ceilings.isExceeded_iff`: the quota and the numbers say the same
* `Datacenter.checkCeilings_eq_ok_iff`: what a machine that is not refused fulfils
* `Datacenter.checkCeilings_agrees_resourceQuota`: the check and the quota say the same
-/

namespace VmProvisioning

/-! ## Dimensions of a quota -/

namespace Dimension

/-- The resource that a dimension is bounded under. -/
def quotaKey : Dimension → String
  | cpu => "requests.cpu"
  | memory => "requests.memory"
  | storage => "requests.storage"

/-- The amount of a quantity, in milli-cores or bytes. -/
def amount : Dimension → String → Except Failure Nat
  | cpu => Quantity.millicores
  | memory | storage => Quantity.bytes

/-- The amount of one unit of a ceiling. -/
def unit : Dimension → Nat
  | cpu => 1000
  | memory | storage => Quantity.gibibyte

/-- The dimensions that are checked before. -/
def earlier : Dimension → List Dimension
  | cpu => []
  | memory => [cpu]
  | storage => [cpu, memory]

end Dimension

/-- The ceiling of a dimension; zero is no ceiling. -/
def Ceilings.of (ceilings : Ceilings) : Dimension → UInt32
  | .cpu => ceilings.cpu
  | .memory => ceilings.memoryGi
  | .storage => ceilings.storageGi

namespace Machine

/-- What a machine asks for, in words. -/
def request (machine : Machine) : Dimension → String
  | .cpu => toString machine.cpu
  | .memory => machine.memory
  | .storage => machine.diskSize

/-- The amount that a machine asks for. -/
def demand (machine : Machine) : Dimension → Except Failure Nat
  | .cpu => .ok (machine.cpu.toNat * 1000)
  | .memory => Quantity.bytes machine.memory
  | .storage => Quantity.bytes machine.diskSize

end Machine

namespace ResourceQuota

/-- The ceiling of a dimension in a quota. -/
def limit? (quota : ResourceQuota) (dimension : Dimension) : Option String :=
  Fields.get? quota.hard dimension.quotaKey

/-- **A machine exceeds a quota** in a dimension: there is a ceiling, and the machine asks for
more than is read back from it. -/
def IsExceeded (quota : ResourceQuota) (machine : Machine) (dimension : Dimension) : Prop :=
  ∃ limit ceiling demand, quota.limit? dimension = some limit ∧
    dimension.amount limit = .ok ceiling ∧ machine.demand dimension = .ok demand ∧
    ceiling < demand

end ResourceQuota

/-! ## Ceilings in words -/

namespace Dimension

/-- A ceiling in words. -/
def limit (dimension : Dimension) (ceiling : UInt32) : String :=
  match dimension with
  | .cpu => toString ceiling.toNat
  | .memory | .storage => Quantity.ofGibibytes ceiling.toNat

/-- Amounts of a ceiling fit into 64 bits. -/
theorem mul_unit_lt (dimension : Dimension) (ceiling : UInt32) :
    ceiling.toNat * dimension.unit < UInt64.size := by
  have hlt := ceiling.toNat_lt
  have hunit : dimension.unit ≤ 2 ^ 30 := by cases dimension <;> decide
  calc ceiling.toNat * dimension.unit ≤ ceiling.toNat * 2 ^ 30 := Nat.mul_le_mul_left _ hunit
    _ < 2 ^ 32 * 2 ^ 30 := Nat.mul_lt_mul_of_pos_right hlt (by decide)
    _ ≤ UInt64.size := by decide

/-- Whole cores in words are the number of the cores. -/
theorem ofMillicores_mul (cores : Nat) : Quantity.ofMillicores (cores * 1000) = toString cores := by
  rw [Quantity.ofMillicores, if_pos (Nat.mul_mod_left _ _), Nat.mul_div_cancel _ (by decide)]

/-- Ceilings are read back from their words. -/
theorem amount_limit (dimension : Dimension) (ceiling : UInt32) :
    dimension.amount (dimension.limit ceiling) = .ok (ceiling.toNat * dimension.unit) := by
  have hlt := dimension.mul_unit_lt ceiling
  cases dimension with
  | cpu =>
    have hsmall : ceiling.toNat * 1000 < 2 ^ 53 := by
      have := ceiling.toNat_lt
      omega
    rw [amount, limit, unit, ← ofMillicores_mul, Quantity.millicores_ofMillicores hsmall.le]
  | memory =>
    rw [unit] at hlt ⊢
    rw [amount, limit, Quantity.bytes_ofGibibytes hlt]
  | storage =>
    rw [unit] at hlt ⊢
    rw [amount, limit, Quantity.bytes_ofGibibytes hlt]

end Dimension

/-! ## The quota of a datacenter -/

namespace Ceilings

variable {ceilings : Ceilings} {ns : String} {machine : Machine} {dimension : Dimension}

/-- **The resource quota for ceilings**, as it is applied to a namespace. -/
def resourceQuota (ceilings : Ceilings) (ns : String) : ResourceQuota :=
  .ofCeilings ns (ceilings.cpu.toNat * 1000) ceilings.memoryGi ceilings.storageGi

theorem nodup_keys_hardLimits (millicores : Nat) (memoryGi storageGi : UInt32) :
    (Fields.keys (ResourceQuota.hardLimits millicores memoryGi storageGi)).Nodup := by
  unfold ResourceQuota.hardLimits
  split <;> split <;> split <;> simp [Fields.keys]

theorem get?_ite {p : Prop} [Decidable p] (fields : Fields String) (key : String) :
    Fields.get? (if p then fields else []) key = if p then Fields.get? fields key else none := by
  split <;> rfl

/-- **The ceilings in the quota** are those that are not zero. -/
theorem limit?_resourceQuota (ceilings : Ceilings) (ns : String) (dimension : Dimension) :
    (ceilings.resourceQuota ns).limit? dimension =
      if 0 < ceilings.of dimension then some (dimension.limit (ceilings.of dimension))
      else none := by
  have hcpu : 0 < ceilings.cpu.toNat * 1000 ↔ 0 < ceilings.cpu := by
    rw [UInt32.lt_iff_toNat_lt, UInt32.toNat_zero]
    omega
  rw [ResourceQuota.limit?, resourceQuota, ResourceQuota.ofCeilings,
    Fields.get?_ofList_of_nodup (nodup_keys_hardLimits _ _ _)]
  simp only [ResourceQuota.hardLimits, Fields.get?_append, get?_ite, hcpu,
    Dimension.ofMillicores_mul]
  -- Each dimension has a part of the limits of its own.
  cases dimension with
  | cpu =>
    simp only [Dimension.quotaKey, Fields.get?_cons_self, Fields.get?_cons_of_ne, Fields.get?_nil,
      ne_eq, String.reduceEq, not_false_eq_true, ite_self, Option.or_none]
    rfl
  | memory =>
    simp only [Dimension.quotaKey, Fields.get?_cons_self, Fields.get?_cons_of_ne, Fields.get?_nil,
      ne_eq, String.reduceEq, not_false_eq_true, ite_self, Option.or_none, Option.none_or]
    rfl
  | storage =>
    simp only [Dimension.quotaKey, Fields.get?_cons_self, Fields.get?_cons_of_ne, Fields.get?_nil,
      ne_eq, String.reduceEq, not_false_eq_true, ite_self, Option.none_or]
    rfl

/-- **The quota and the numbers say the same**: a ceiling of the quota is exceeded when the amount
that is asked for is above the number. -/
theorem isExceeded_iff : (ceilings.resourceQuota ns).IsExceeded machine dimension ↔
    0 < ceilings.of dimension ∧ ∃ demand, machine.demand dimension = .ok demand ∧
      (ceilings.of dimension).toNat * dimension.unit < demand := by
  unfold ResourceQuota.IsExceeded
  rw [limit?_resourceQuota]
  constructor
  · rintro ⟨words, ceiling, demand, hwords, hceiling, hdemand, hlt⟩
    obtain ⟨hpos, rfl⟩ := Option.ite_some_none_eq_some.mp hwords
    obtain rfl := Except.ok.inj ((Dimension.amount_limit _ _).symm.trans hceiling)
    exact ⟨hpos, demand, hdemand, hlt⟩
  · rintro ⟨hpos, demand, hdemand, hlt⟩
    exact ⟨_, _, demand, if_pos hpos, Dimension.amount_limit _ _, hdemand, hlt⟩

/-- Processors are compared in cores, and in milli-cores by the quota. -/
theorem isExceeded_cpu_iff : (ceilings.resourceQuota ns).IsExceeded machine .cpu ↔
    0 < ceilings.cpu ∧ ceilings.cpu < machine.cpu := by
  rw [isExceeded_iff]
  refine and_congr_right fun _ => ?_
  rw [UInt32.lt_iff_toNat_lt]
  constructor
  · rintro ⟨demand, hdemand, hlt⟩
    obtain rfl := Except.ok.inj hdemand
    exact Nat.lt_of_mul_lt_mul_right hlt
  · intro hlt
    exact ⟨_, rfl, Nat.mul_lt_mul_of_pos_right hlt (by decide)⟩

theorem isExceeded_memory_iff {bytes : Nat} (h : Quantity.bytes machine.memory = .ok bytes) :
    (ceilings.resourceQuota ns).IsExceeded machine .memory ↔
      0 < ceilings.memoryGi ∧ ceilings.memoryGi.toNat * Quantity.gibibyte < bytes := by
  rw [isExceeded_iff]
  simp [Machine.demand, h, Ceilings.of, Dimension.unit]

theorem isExceeded_storage_iff {bytes : Nat} (h : Quantity.bytes machine.diskSize = .ok bytes) :
    (ceilings.resourceQuota ns).IsExceeded machine .storage ↔
      0 < ceilings.storageGi ∧ ceilings.storageGi.toNat * Quantity.gibibyte < bytes := by
  rw [isExceeded_iff]
  simp [Machine.demand, h, Ceilings.of, Dimension.unit]

end Ceilings

/-! ## The check of one ceiling -/

namespace Dimension

variable {dimension : Dimension} {quantity : String} {ceiling : UInt32} {bytes : Nat}

theorem checkCeiling_eq_ok_iff : dimension.checkCeiling quantity ceiling = .ok () ↔
    ∃ bytes, Quantity.bytes quantity = .ok bytes ∧
      (0 < ceiling → bytes ≤ ceiling.toNat * Quantity.gibibyte) := by
  unfold Dimension.checkCeiling
  cases Quantity.bytes quantity with
  | error failure => simp [bind, Except.bind]
  | ok bytes =>
    simp only [bind, Except.bind, pure, Except.pure, Except.ok.injEq, exists_eq_left']
    split
    · next h => simp [throw, throwThe, MonadExceptOf.throw, h.1, h.2]
    · next h => simpa using fun hceiling => not_lt.mp fun hlt => h ⟨hceiling, hlt⟩

theorem checkCeiling_of_exceeded (hbytes : Quantity.bytes quantity = .ok bytes)
    (h : 0 < ceiling ∧ ceiling.toNat * Quantity.gibibyte < bytes) :
    dimension.checkCeiling quantity ceiling =
      .error (.resourceExceeded dimension quantity (Quantity.ofGibibytes ceiling.toNat)) := by
  simp [checkCeiling, hbytes, h, bind, Except.bind, throw, throwThe, MonadExceptOf.throw]

theorem checkCeiling_of_kept (hbytes : Quantity.bytes quantity = .ok bytes)
    (h : ¬ (0 < ceiling ∧ ceiling.toNat * Quantity.gibibyte < bytes)) :
    dimension.checkCeiling quantity ceiling = .ok () :=
  checkCeiling_eq_ok_iff.mpr ⟨bytes, hbytes, fun hpos => not_lt.mp fun hlt => h ⟨hpos, hlt⟩⟩

end Dimension

/-! ## The check of a machine -/

namespace Datacenter

variable {datacenter : Datacenter} {ns : String} {machine : Machine} {dimension : Dimension}

/-- **A machine is not refused** when none of its resources exceeds its ceiling. -/
theorem checkCeilings_eq_ok_iff : datacenter.checkCeilings machine = .ok () ↔
    (0 < datacenter.spec.quota.cpu → machine.cpu ≤ datacenter.spec.quota.cpu) ∧
      Dimension.memory.checkCeiling machine.memory datacenter.spec.quota.memoryGi = .ok () ∧
      Dimension.storage.checkCeiling machine.diskSize datacenter.spec.quota.storageGi =
        .ok () := by
  unfold checkCeilings
  by_cases hcpu : 0 < datacenter.spec.quota.cpu ∧ datacenter.spec.quota.cpu < machine.cpu
  · simp [hcpu, bind, Except.bind, throw, throwThe, MonadExceptOf.throw]
  · have hfits : 0 < datacenter.spec.quota.cpu → machine.cpu ≤ datacenter.spec.quota.cpu :=
      fun h => UInt32.not_lt.mp fun hlt => hcpu ⟨h, hlt⟩
    cases hmemory : Dimension.memory.checkCeiling machine.memory
        datacenter.spec.quota.memoryGi with
    | error failure => simp [hcpu, hmemory, bind, Except.bind]
    | ok => simpa [hcpu, hmemory, bind, Except.bind] using fun _ => hfits

/-- A machine that asks for more processors than there are is refused at once. -/
theorem checkCeilings_of_exceeded_cpu
    (h : 0 < datacenter.spec.quota.cpu ∧ datacenter.spec.quota.cpu < machine.cpu) :
    datacenter.checkCeilings machine =
      .error (.resourceExceeded .cpu (toString machine.cpu)
        (toString datacenter.spec.quota.cpu)) := by
  simp [checkCeilings, h, bind, Except.bind, throw, throwThe, MonadExceptOf.throw]

theorem checkCeilings_of_kept_cpu
    (h : ¬ (0 < datacenter.spec.quota.cpu ∧ datacenter.spec.quota.cpu < machine.cpu)) :
    datacenter.checkCeilings machine = (do
      Dimension.memory.checkCeiling machine.memory datacenter.spec.quota.memoryGi
      Dimension.storage.checkCeiling machine.diskSize datacenter.spec.quota.storageGi) := by
  simp only [checkCeilings, if_neg h]

/-- **What is admitted keeps the quota**: it is readable, and exceeds the quota in no dimension. -/
theorem checkCeilings_eq_ok_iff_not_isExceeded : datacenter.checkCeilings machine = .ok () ↔
    (∃ memory, Quantity.bytes machine.memory = .ok memory) ∧
      (∃ disk, Quantity.bytes machine.diskSize = .ok disk) ∧
      ∀ dimension, ¬ (datacenter.spec.quota.resourceQuota ns).IsExceeded machine dimension := by
  have hcpu : (0 < datacenter.spec.quota.cpu → machine.cpu ≤ datacenter.spec.quota.cpu) ↔
      ¬ (datacenter.spec.quota.resourceQuota ns).IsExceeded machine .cpu := by
    rw [Ceilings.isExceeded_cpu_iff, not_and, UInt32.not_lt]
  rw [checkCeilings_eq_ok_iff, Dimension.checkCeiling_eq_ok_iff, Dimension.checkCeiling_eq_ok_iff,
    hcpu]
  constructor
  · rintro ⟨hkept, ⟨memory, hmemory, hle⟩, ⟨disk, hdisk, hfits⟩⟩
    refine ⟨⟨memory, hmemory⟩, ⟨disk, hdisk⟩, ?_⟩
    rintro (_ | _ | _)
    · exact hkept
    · rw [Ceilings.isExceeded_memory_iff hmemory, not_and, Nat.not_lt]
      exact hle
    · rw [Ceilings.isExceeded_storage_iff hdisk, not_and, Nat.not_lt]
      exact hfits
  · rintro ⟨⟨memory, hmemory⟩, ⟨disk, hdisk⟩, hkept⟩
    have hle := hkept .memory
    have hfits := hkept .storage
    rw [Ceilings.isExceeded_memory_iff hmemory, not_and, Nat.not_lt] at hle
    rw [Ceilings.isExceeded_storage_iff hdisk, not_and, Nat.not_lt] at hfits
    exact ⟨hkept .cpu, ⟨memory, hmemory, hle⟩, ⟨disk, hdisk, hfits⟩⟩

/-- **A refusal names the first dimension** in which the quota is exceeded, with its ceiling. -/
theorem checkCeilings_of_isExceeded {memory disk : Nat}
    (hmemory : Quantity.bytes machine.memory = .ok memory)
    (hdisk : Quantity.bytes machine.diskSize = .ok disk)
    (hexceeded : (datacenter.spec.quota.resourceQuota ns).IsExceeded machine dimension)
    (hearlier : ∀ earlier ∈ dimension.earlier,
      ¬ (datacenter.spec.quota.resourceQuota ns).IsExceeded machine earlier) :
    datacenter.checkCeilings machine = .error (.resourceExceeded dimension
      (machine.request dimension) (dimension.limit (datacenter.spec.quota.of dimension))) := by
  cases dimension with
  | cpu => exact checkCeilings_of_exceeded_cpu (Ceilings.isExceeded_cpu_iff.mp hexceeded)
  | memory =>
    have hcpu := hearlier .cpu (by simp [Dimension.earlier])
    rw [checkCeilings_of_kept_cpu (Ceilings.isExceeded_cpu_iff.not.mp hcpu),
      Dimension.checkCeiling_of_exceeded hmemory
        ((Ceilings.isExceeded_memory_iff hmemory).mp hexceeded)]
    rfl
  | storage =>
    have hcpu := hearlier .cpu (by simp [Dimension.earlier])
    have hkept := hearlier .memory (by simp [Dimension.earlier])
    rw [checkCeilings_of_kept_cpu (Ceilings.isExceeded_cpu_iff.not.mp hcpu),
      Dimension.checkCeiling_of_kept hmemory
        ((Ceilings.isExceeded_memory_iff hmemory).not.mp hkept),
      Dimension.checkCeiling_of_exceeded hdisk
        ((Ceilings.isExceeded_storage_iff hdisk).mp hexceeded)]
    rfl

/-- **The check and the quota say the same.** Every ceiling of the quota can be read back. A machine
is admitted exactly when its quantities are readable and it exceeds the quota in no dimension, and
the first dimension in which it exceeds it is the one that the refusal names, with the words of
the machine and of the quota. All amounts fit into 64 bits. -/
theorem checkCeilings_agrees_resourceQuota (datacenter : Datacenter) (ns : String)
    (machine : Machine) :
    (∀ dimension limit, (datacenter.spec.quota.resourceQuota ns).limit? dimension = some limit →
      ∃ ceiling, dimension.amount limit = .ok ceiling) ∧
    (datacenter.checkCeilings machine = .ok () ↔
      (∃ memory, Quantity.bytes machine.memory = .ok memory) ∧
      (∃ disk, Quantity.bytes machine.diskSize = .ok disk) ∧
      ∀ dimension, ¬ (datacenter.spec.quota.resourceQuota ns).IsExceeded machine dimension) ∧
    ((∃ memory, Quantity.bytes machine.memory = .ok memory) →
      (∃ disk, Quantity.bytes machine.diskSize = .ok disk) →
      ∀ dimension, (datacenter.spec.quota.resourceQuota ns).IsExceeded machine dimension →
        (∀ earlier ∈ dimension.earlier,
          ¬ (datacenter.spec.quota.resourceQuota ns).IsExceeded machine earlier) →
        ∃ limit, (datacenter.spec.quota.resourceQuota ns).limit? dimension = some limit ∧
          datacenter.checkCeilings machine =
            .error (.resourceExceeded dimension (machine.request dimension) limit)) ∧
    machine.cpu.toNat * 1000 < UInt64.size ∧
    ∀ dimension, (datacenter.spec.quota.of dimension).toNat * dimension.unit < UInt64.size := by
  refine ⟨?_, checkCeilings_eq_ok_iff_not_isExceeded, ?_, Dimension.mul_unit_lt .cpu machine.cpu,
    fun dimension => dimension.mul_unit_lt _⟩
  · intro dimension words hwords
    rw [Ceilings.limit?_resourceQuota] at hwords
    obtain ⟨-, rfl⟩ := Option.ite_some_none_eq_some.mp hwords
    exact ⟨_, dimension.amount_limit _⟩
  · rintro ⟨memory, hmemory⟩ ⟨disk, hdisk⟩ dimension hexceeded hearlier
    refine ⟨_, ?_, checkCeilings_of_isExceeded hmemory hdisk hexceeded hearlier⟩
    rw [Ceilings.limit?_resourceQuota, if_pos (Ceilings.isExceeded_iff.mp hexceeded).1]

/-! ## A machine that asks for too much memory and too large a disk -/

/-- A datacenter with as many processors as can be counted. -/
def wideDatacenter : Datacenter :=
  ⟨"acme", ⟨"acme", "acme-dev", ⟨4294967295, 8, 20⟩, none⟩⟩

/-- A machine with as many processors, and more memory and storage than there are. -/
def wideMachine : Machine :=
  .new "web" "web" 4294967295 "8.5Gi" "40G"

/-- The processors are not exceeded, and memory is named before storage. -/
theorem checkCeilings_wideMachine :
    (∀ dimension, (wideDatacenter.spec.quota.resourceQuota "acme-dev").IsExceeded wideMachine
        dimension ↔ dimension ≠ .cpu) ∧
      wideDatacenter.checkCeilings wideMachine =
        .error (.resourceExceeded .memory "8.5Gi" "8Gi") := by
  have hmemory : Quantity.bytes wideMachine.memory = .ok 9126805504 := by decide +kernel
  have hdisk : Quantity.bytes wideMachine.diskSize = .ok 40000000000 := by decide +kernel
  have hexceeded : ∀ dimension, (wideDatacenter.spec.quota.resourceQuota "acme-dev").IsExceeded
      wideMachine dimension ↔ dimension ≠ .cpu := by
    rintro (_ | _ | _)
    · rw [Ceilings.isExceeded_cpu_iff]
      decide
    · rw [Ceilings.isExceeded_memory_iff hmemory]
      decide
    · rw [Ceilings.isExceeded_storage_iff hdisk]
      decide
  obtain ⟨limit, hlimit, hrefused⟩ := (checkCeilings_agrees_resourceQuota wideDatacenter "acme-dev"
    wideMachine).2.2.1 ⟨_, hmemory⟩ ⟨_, hdisk⟩ .memory ((hexceeded .memory).mpr (by decide))
    (by simp [Dimension.earlier, hexceeded])
  have hwords : (wideDatacenter.spec.quota.resourceQuota "acme-dev").limit? .memory =
      some "8Gi" := by
    decide +kernel
  obtain rfl := Option.some.inj (hwords.symm.trans hlimit)
  exact ⟨hexceeded, hrefused⟩

end Datacenter

end VmProvisioning
