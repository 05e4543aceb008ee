import Mathlib.Data.List.Nodup
import Mathlib.Data.List.Perm.Subperm
import VmProvisioning.Proofs.Fields
import VmProvisioning.Proofs.Simulation.Address
import VmProvisioning.Simulation.Registry

/-!
# Allocation of addresses

A machine that is started gets an address that no other machine has. There is one, since the
candidates are as many different addresses as there are words, and the other machines have fewer.

## Main results

* `mem_othersAddresses`: which addresses are taken
* `exists_candidate_notMem`: one candidate more than there are taken addresses is enough
* `exists_freeAddress_eq_candidate`: the address for a machine is the first candidate that is free
* `freeAddress_notMem`: the address for a machine is not taken
* `exists_freeAddress_eq_text`: it is the notation of a word
-/

namespace VmProvisioning.Registry

variable {registry : Registry} {key : String}

/-- The taken addresses are those of the other machines. -/
theorem mem_othersAddresses (hord : Fields.IsOrdered registry) {address : String} :
    address ∈ othersAddresses registry key ↔
      ∃ other registered, other ≠ key ∧ Fields.get? registry other = some registered ∧
        registered.ipAddress = some address := by
  simp only [othersAddresses, List.mem_filterMap, List.mem_filter, decide_eq_true_eq, Prod.exists,
    hord.get?_eq_some_iff]
  constructor
  · rintro ⟨other, registered, ⟨hmem, hne⟩, haddress⟩
    exact ⟨other, registered, hne, hmem, haddress⟩
  · rintro ⟨other, registered, hne, hmem, haddress⟩
    exact ⟨other, registered, ⟨hmem, hne⟩, haddress⟩

theorem length_othersAddresses_le : (othersAddresses registry key).length ≤ registry.length :=
  (List.length_filterMap_le _ _).trans (List.length_filter_le _ _)

/-- A machine that is there itself leaves fewer addresses for others than there are machines. -/
theorem length_othersAddresses_lt {registered : Registered}
    (hget : Fields.get? registry key = some registered) :
    (othersAddresses registry key).length < registry.length := by
  refine (List.length_filterMap_le _ _).trans_lt ?_
  rw [List.length_filter_lt_length_iff_exists]
  exact ⟨(key, registered), Fields.mem_of_get?_eq_some hget, by simp⟩

/-! ## Candidates -/

/-- As long as there are words left the candidates are different. -/
theorem candidate_inj {size m n : Nat} (hm : m < UInt32.size) (hn : n < UInt32.size)
    (h : candidate size m = candidate size n) : m = n := by
  have hword := (UInt32.add_right_inj _).mp (Address.text_injective h)
  have hnat := congrArg UInt32.toNat hword
  simpa [UInt32.toNat_ofNat', Nat.mod_eq_of_lt hm, Nat.mod_eq_of_lt hn] using hnat

/-- One candidate more than there are taken addresses is enough. -/
theorem exists_candidate_notMem (size : Nat) {taken : List String}
    (h : taken.length < UInt32.size) : ∃ n ≤ taken.length, candidate size n ∉ taken := by
  -- Otherwise more different addresses would be taken than there are.
  by_contra hall
  have hsub : (List.range (taken.length + 1)).map (candidate size) ⊆ taken := by
    intro address haddress
    obtain ⟨n, hn, rfl⟩ := List.mem_map.mp haddress
    by_contra hfree
    exact hall ⟨n, Nat.lt_succ_iff.mp (List.mem_range.mp hn), hfree⟩
  have hnodup : ((List.range (taken.length + 1)).map (candidate size)).Nodup := by
    refine List.Nodup.map_on (fun m hm n hn heq => ?_) List.nodup_range
    rw [List.mem_range] at hm hn
    exact candidate_inj (by omega) (by omega) heq
  have := (hnodup.subperm hsub).length_le
  simp at this

/-! ## The address for a machine -/

/-- **The address for a machine is the first candidate that is not taken.** Before it come no more
candidates than there are taken addresses. -/
theorem exists_freeAddress_eq_candidate (h : registry.length < UInt32.size) :
    ∃ n ≤ (othersAddresses registry key).length,
      freeAddress registry key = candidate registry.length n ∧
        candidate registry.length n ∉ othersAddresses registry key ∧
        ∀ m < n, candidate registry.length m ∈ othersAddresses registry key := by
  have hlength : (othersAddresses registry key).length ≤ registry.length :=
    length_othersAddresses_le
  obtain ⟨bound, hbound, hfree⟩ : ∃ n ≤ (othersAddresses registry key).length,
      candidate registry.length n ∉ othersAddresses registry key :=
    exists_candidate_notMem registry.length (by omega)
  -- The search ends with a candidate ...
  have hsome : ((List.range (registry.length + 1)).find? fun n =>
      !(othersAddresses registry key).contains (candidate registry.length n)).isSome := by
    rw [List.find?_isSome]
    exact ⟨bound, List.mem_range.mpr (by omega), by simpa using hfree⟩
  obtain ⟨n, hn⟩ := Option.isSome_iff_exists.mp hsome
  have hfind : freeAddress registry key = candidate registry.length n := by
    rw [freeAddress, List.find?_map]
    simp only [Function.comp_def, hn, Option.map_some, Option.getD_some]
  -- ... that is not taken, while all before it are.
  obtain ⟨hnot, -, hbefore⟩ := List.find?_range_eq_some.mp hn
  refine ⟨n, ?_, hfind, by simpa using hnot, fun m hm => by simpa using hbefore m hm⟩
  by_contra hlt
  exact hfree (by simpa using hbefore bound (by omega))

/-- **The address for a machine is not taken.** -/
theorem freeAddress_notMem (h : registry.length < UInt32.size) :
    freeAddress registry key ∉ othersAddresses registry key := by
  obtain ⟨n, -, hfind, hnot, -⟩ := exists_freeAddress_eq_candidate h
  rw [hfind]
  exact hnot

/-- The address for a machine is the notation of a word. -/
theorem exists_freeAddress_eq_text (registry : Registry) (key : String) :
    ∃ word, freeAddress registry key = Address.text word := by
  rw [freeAddress]
  cases hfind : ((List.range (registry.length + 1)).map (candidate registry.length)).find?
      fun address => !(othersAddresses registry key).contains address with
  | none => exact ⟨_, rfl⟩
  | some address =>
    obtain ⟨n, -, hn⟩ := List.mem_map.mp (List.mem_of_find?_eq_some hfind)
    exact ⟨_, hn.symm⟩

end VmProvisioning.Registry
