import VmProvisioning.Proofs.Simulation.Allocation
import VmProvisioning.Proofs.Simulation.Coherence

/-!
# The search for a free address

An address is searched word by word until one is found that no other machine holds. Nothing in the
search bounds it. It ends because different words have different notations and the other machines
hold no more addresses than there are machines.

## Main definitions

* `Address.Search`: the searches that end, with the number of addresses that they try
* `Registry.IsHeld`: the addresses of the other machines

## Main results

* `Address.Search.unique`: a search ends in one way only
* `Address.Search.of_forall_held`: it ends with the first address that is free
* `Registry.search_freeAddress`: it ends with the address for a machine, after no more attempts than
  there are other machines and one
-/

namespace VmProvisioning

namespace Address

/-! ## Searches that end -/

theorem add_ofNat_zero (word : UInt32) : word + UInt32.ofNat 0 = word :=
  UInt32.add_zero word

/-- Counting on from the next word is counting on from the word, also across the last word. -/
theorem add_ofNat_succ (word : UInt32) (n : Nat) :
    word + UInt32.ofNat (n + 1) = word + 1 + UInt32.ofNat n := by
  rw [UInt32.ofNat_add, UInt32.add_comm (UInt32.ofNat n), ← UInt32.add_assoc]
  rfl

/-- **The searches that end**: from a word on, the number of addresses that are tried and the one
that is found. A free address ends the search, and a held one is followed by the next word, where
the first word follows the last. -/
inductive Search (isHeld : String → Prop) : UInt32 → Nat → String → Prop where
  | free {word : UInt32} (hfree : ¬ isHeld (text word)) : Search isHeld word 1 (text word)
  | held {word : UInt32} {tries : Nat} {address : String} (hheld : isHeld (text word))
      (rest : Search isHeld (word + 1) tries address) : Search isHeld word (tries + 1) address

namespace Search

variable {isHeld : String → Prop} {word : UInt32} {tries : Nat} {address : String}

/-- **A search ends in one way only.** -/
theorem unique (h : Search isHeld word tries address) {tries' : Nat} {address' : String}
    (h' : Search isHeld word tries' address') : tries' = tries ∧ address' = address := by
  -- Both searches see the same address, so that they end or go on together.
  induction h generalizing tries' with
  | free hfree =>
    cases h' with
    | free => exact ⟨rfl, rfl⟩
    | held hheld => exact absurd hheld hfree
  | held hheld rest ih =>
    cases h' with
    | free hfree => exact absurd hheld hfree
    | held _ rest' =>
      obtain ⟨rfl, rfl⟩ := ih rest'
      exact ⟨rfl, rfl⟩

/-- **A search ends with the first address that is free**: as many words are passed over as have
addresses that are held. -/
theorem of_forall_held {n : Nat} (hheld : ∀ m < n, isHeld (text (word + UInt32.ofNat m)))
    (hfree : ¬ isHeld (text (word + UInt32.ofNat n))) :
    Search isHeld word (n + 1) (text (word + UInt32.ofNat n)) := by
  -- Induction on the number of words that are passed over, from any word on.
  induction n generalizing word with
  | zero =>
    rw [add_ofNat_zero] at hfree ⊢
    exact .free hfree
  | succ n ih =>
    have hfirst : isHeld (text word) := add_ofNat_zero word ▸ hheld 0 n.succ_pos
    rw [add_ofNat_succ] at hfree ⊢
    refine .held hfirst (ih (fun m hm => ?_) hfree)
    rw [← add_ofNat_succ]
    exact hheld (m + 1) (Nat.succ_lt_succ hm)

end Search

end Address

namespace Registry

/-! ## The search for a machine -/

variable {registry : Registry} {key : String}

/-- A machine other than the one at the key holds the address. -/
def IsHeld (registry : Registry) (key address : String) : Prop :=
  ∃ other registered, (other, registered) ∈ registry ∧ other ≠ key ∧
    registered.ipAddress = some address

theorem mem_othersAddresses_iff_isHeld {address : String} :
    address ∈ othersAddresses registry key ↔ IsHeld registry key address := by
  simp only [IsHeld, othersAddresses, List.mem_filterMap, List.mem_filter, decide_eq_true_eq,
    Prod.exists, and_assoc]

/-- **The search for an address ends** in a registry of fewer than `2 ^ 32` machines, and in one way
only: with the address for the machine, after no more attempts than there are other machines and
one. It is the first address, counted from the size of the registry, that no other machine
holds. -/
theorem search_freeAddress (h : registry.length < 2 ^ 32) (key : String) :
    ∃ n ≤ (registry.filter fun (other, _) => other ≠ key).length,
      (∀ tries address, Address.Search (IsHeld registry key)
          (Address.poolBase + Address.poolOffset + UInt32.ofNat registry.length) tries address ↔
        tries = n + 1 ∧ address = freeAddress registry key) ∧
      freeAddress registry key = candidate registry.length n ∧
      ¬ IsHeld registry key (candidate registry.length n) ∧
      ∀ m < n, IsHeld registry key (candidate registry.length m) := by
  obtain ⟨n, hle, hfind, hnot, hbefore⟩ := @exists_freeAddress_eq_candidate registry key h
  simp only [mem_othersAddresses_iff_isHeld] at hnot hbefore
  have hsearch : Address.Search (IsHeld registry key)
      (Address.poolBase + Address.poolOffset + UInt32.ofNat registry.length) (n + 1)
      (freeAddress registry key) := by
    rw [hfind]
    exact .of_forall_held hbefore hnot
  refine ⟨n, hle.trans (List.length_filterMap_le _ _), fun tries address => ?_, hfind, hnot,
    hbefore⟩
  constructor
  · exact hsearch.unique
  · rintro ⟨rfl, rfl⟩
    exact hsearch

/-- The address for the size of the registry is held by the first machine, so that the search goes
on once. The machine itself has the address that it finds, which does not count. -/
theorem search_freeAddress_reusingRun :
    (after [] reusingRun).length < 2 ^ 32 ∧
      Address.Search (IsHeld (after [] reusingRun) "acme-dev/c")
        (Address.poolBase + Address.poolOffset + 2) 2 "10.128.0.103" := by
  have hlength : (after [] reusingRun).length = 2 := by decide +kernel
  have hothers : ((after [] reusingRun).filter fun (other, _) =>
      other ≠ "acme-dev/c").length = 1 := by
    decide +kernel
  have hfound : freeAddress (after [] reusingRun) "acme-dev/c" = "10.128.0.103" := by
    decide +kernel
  have hsize : (after [] reusingRun).length < 2 ^ 32 := by
    rw [hlength]
    decide
  obtain ⟨n, hle, hsearch, hfind, -, -⟩ := search_freeAddress hsize "acme-dev/c"
  rw [hlength] at hsearch
  refine ⟨hsize, (hsearch 2 "10.128.0.103").mpr ⟨?_, hfound.symm⟩⟩
  rw [hothers] at hle
  rw [hlength, hfound] at hfind
  obtain rfl | rfl : n = 0 ∨ n = 1 := by omega
  · exact absurd hfind (by decide +kernel)
  · rfl

end Registry

end VmProvisioning
