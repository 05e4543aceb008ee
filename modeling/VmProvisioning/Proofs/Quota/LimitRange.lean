import VmProvisioning.Proofs.Fields
import VmProvisioning.Proofs.Quantity
import VmProvisioning.Quota.LimitRange

/-!
# Limit ranges read back

The bounds of a machine are written as milli-cores and GiB and read as doubles, which hold numbers
of that size exactly. The first limits for containers decide about the bounds in force, so that
limits that others have put into the object do no harm, unless they are limits for containers that
stand in front.

## Main definitions

* `LimitInfo.ofBounds`: the bounds of a datacenter as bounds in force

## Main results

* `cores_amounts`, `gibibytes_amounts`: the quantities of bounds are read back
* `ofLimitRange_of_first`: the first limits for containers decide
* `ofLimitRange_ofBounds_among`: bounds are read back, also from among other limits
-/

namespace VmProvisioning.LimitInfo

/-- The bounds of a datacenter as bounds in force. -/
def ofBounds (bounds : Bounds) : LimitInfo :=
  ⟨true, bounds.minCpu, bounds.maxCpu, bounds.minMemoryGi, bounds.maxMemoryGi⟩

/-! ## Quantities -/

/-- A number of units is read back from the amount. -/
theorem inUnits_mul (count : UInt32) {unit : Nat} (h : 0 < unit) :
    inUnits (some (.ok (count.toNat * unit))) unit = count := by
  rw [inUnits, Nat.mul_div_cancel _ h, UInt32.ofNat_toNat]

/-- **Processors are read back**, whatever the memory beside them. -/
theorem cores_amounts (cpu memoryGi : UInt32) :
    cores (LimitRange.amounts cpu memoryGi) = cpu := by
  have hcpu := cpu.toNat_lt
  have hread : Quantity.millicores (toString (cpu.toNat * 1000) ++ "m") =
      .ok (cpu.toNat * 1000) :=
    Quantity.millicores_toString_append (by omega)
  rw [cores, LimitRange.amounts, Fields.get?_cons_self, Option.map_some, hread]
  exact inUnits_mul cpu (by omega)

/-- **Memory is read back**, whatever the processors beside it. -/
theorem gibibytes_amounts (cpu memoryGi : UInt32) :
    gibibytes (LimitRange.amounts cpu memoryGi) = memoryGi := by
  have hmemory := memoryGi.toNat_lt
  have hsize : memoryGi.toNat * Quantity.gibibyte < UInt64.size := by
    simp only [Quantity.gibibyte, UInt64.size, Nat.pow_eq, Nat.reducePow]
    omega
  rw [gibibytes, LimitRange.amounts, Fields.get?_cons_of_ne (by decide), Fields.get?_cons_self,
    Option.map_some, Quantity.bytes_ofGibibytes hsize]
  exact inUnits_mul memoryGi (Nat.pow_pos (by omega))

/-! ## Limits -/

section Limits

variable {ns : String} {before after : List Limits} {limits : Limits}

/-- **The first limits for containers decide**, whatever stands before and after them. -/
theorem ofLimitRange_of_first
    (hbefore : ∀ other ∈ before, other.type ≠ LimitRange.containerType)
    (hlimits : limits.type = LimitRange.containerType) :
    ofLimitRange ⟨ns, before ++ limits :: after⟩ =
      ⟨true, cores limits.min, cores limits.max, gibibytes limits.min, gibibytes limits.max⟩ := by
  have hskipped : before.find? (fun other => other.type == LimitRange.containerType) = none := by
    rw [List.find?_eq_none]
    intro other hother
    simpa using hbefore other hother
  have hfound : (before ++ limits :: after).find?
      (fun other => other.type == LimitRange.containerType) = some limits := by
    rw [List.find?_append, hskipped, Option.none_or]
    exact List.find?_cons_of_pos (by simpa using hlimits)
  rw [ofLimitRange, hfound]

end Limits

/-- **Bounds are read back** from their limit range, also when limits of other types stand before
its own and any limits behind. -/
theorem ofLimitRange_ofBounds_among (ns : String) (bounds : Bounds) :
    ofLimitRange (.ofBounds ns bounds) = .ofBounds bounds ∧
      ∀ before after, (∀ other ∈ before, other.type ≠ LimitRange.containerType) →
        ofLimitRange { LimitRange.ofBounds ns bounds with
            limits := before ++ (LimitRange.ofBounds ns bounds).limits ++ after } =
          .ofBounds bounds := by
  have hamong (before after) (hbefore : ∀ other ∈ before, other.type ≠ LimitRange.containerType) :
      ofLimitRange { LimitRange.ofBounds ns bounds with
          limits := before ++ (LimitRange.ofBounds ns bounds).limits ++ after } =
        .ofBounds bounds := by
    rw [List.append_assoc]
    refine (ofLimitRange_of_first hbefore rfl).trans ?_
    simp only [cores_amounts, gibibytes_amounts, ofBounds]
  refine ⟨?_, hamong⟩
  simpa using hamong [] [] (by simp)

/-- The widest bounds there are, but for a GiB that a machine has to use. -/
def widestBounds : Bounds :=
  ⟨0, 4294967295, 1, 4294967295⟩

/-- Limits of pods, which are not those of a machine. -/
def podLimits : Limits :=
  ⟨"Pod", [("cpu", "1")], [("cpu", "2"), ("memory", "1Gi")], [], []⟩

/-- Limits of containers that somebody else has added. -/
def addedLimits : Limits :=
  ⟨LimitRange.containerType, [], [("memory", "1Gi")], [], []⟩

theorem ofLimitRange_widestBounds_among :
    (∀ other ∈ [podLimits, podLimits], other.type ≠ LimitRange.containerType) ∧
      ofLimitRange ⟨"acme-dev", [podLimits, podLimits] ++
        (LimitRange.ofBounds "acme-dev" widestBounds).limits ++ [addedLimits]⟩ =
          ⟨true, 0, 4294967295, 1, 4294967295⟩ := by
  have hpods : ∀ other ∈ [podLimits, podLimits], other.type ≠ LimitRange.containerType := by
    decide
  exact ⟨hpods, (ofLimitRange_ofBounds_among "acme-dev" widestBounds).2 _ [addedLimits] hpods⟩

end VmProvisioning.LimitInfo
