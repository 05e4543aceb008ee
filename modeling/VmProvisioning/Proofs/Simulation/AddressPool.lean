import VmProvisioning.Proofs.Simulation.Coherence
import VmProvisioning.Proofs.Simulation.Refinement

/-!
# The pool of addresses

A machine that is started gets an address not far behind those of the machines that are there
already: fewer candidates are taken than there are machines. Registries that have shrunk since
still hold the addresses of their larger days, so the bound is on the greatest size of a run. As
long as that is at most 32768 the last two bytes tell the addresses apart, and hence the hardware
addresses that are made from them.

## Main definitions

* `Address.IsInPool`: an address among the first ones behind the beginning of the pool
* `Registry.IsPooled`: all addresses in a registry are among these

## Main results

* `Registry.isInPool_freeAddress`: the address for a machine is in the pool
* `Registry.IsPooled.change`, `Registry.IsPooled.after`: a step and a run stay in the pool
* `Address.mac_ne_of_isInPool`: different addresses of a small pool have different hardware
  addresses
* `Registry.isInPool_and_macs_differ`: what this means for the machines of a run
-/

namespace VmProvisioning

/-! ## Addresses in the pool -/

namespace Address

/-- **An address in the pool for a number of machines**: one of the first twice as many behind the
offset of the pool. -/
def IsInPool (size : Nat) (address : String) : Prop :=
  ∃ word : UInt32, address = text word ∧ poolBase.toNat + 101 ≤ word.toNat ∧
    word.toNat ≤ poolBase.toNat + 99 + 2 * size

example : text poolBase = "10.128.0.0" := by
  decide +kernel

/-- **Different addresses of a small pool** have different hardware addresses. -/
theorem mac_ne_of_isInPool {size : Nat} {first second : String} (hsize : size ≤ 32768)
    (hfirst : IsInPool size first) (hsecond : IsInPool size second) (hne : first ≠ second) :
    mac first ≠ mac second := by
  obtain ⟨word, rfl, hlower, hupper⟩ := hfirst
  obtain ⟨word', rfl, hlower', hupper'⟩ := hsecond
  intro hmac
  -- The pool is shorter than the words that agree in their last two bytes are apart.
  have hbytes := toNat_mod_eq_of_mac_text_eq hmac
  have hword : word = word' := by
    apply UInt32.toNat_inj.mp
    omega
  exact hne (congrArg text hword)

end Address

namespace Registry

variable {registry changed : Registry} {key : String} {registered : Registered} {size : Nat}

/-- The candidates of a small registry do not wrap around. -/
theorem exists_candidate_eq_text {size n : Nat} (h : size + n < 2 ^ 17) :
    ∃ word : UInt32, candidate size n = Address.text word ∧
      word.toNat = Address.poolBase.toNat + 100 + size + n := by
  have hbase : Address.poolBase.toNat = 176160768 := rfl
  have hoffset : Address.poolOffset.toNat = 100 := rfl
  refine ⟨_, rfl, ?_⟩
  simp only [UInt32.toNat_add, UInt32.toNat_ofNat', hbase, hoffset]
  omega

/-- **The address for a machine is in the pool** for the machines that are there. -/
theorem isInPool_freeAddress (hget : Fields.get? registry key = some registered)
    (hlength : registry.length ≤ size) (hsize : size < 2 ^ 16) :
    Address.IsInPool size (freeAddress registry key) := by
  have hothers : (othersAddresses registry key).length < registry.length :=
    length_othersAddresses_lt hget
  have hwords : registry.length < UInt32.size := hlength.trans_lt (hsize.trans (by decide))
  obtain ⟨n, hn, hfind, -, -⟩ := @exists_freeAddress_eq_candidate registry key hwords
  obtain ⟨word, hword, hnumber⟩ : ∃ word : UInt32,
      candidate registry.length n = Address.text word ∧
        word.toNat = Address.poolBase.toNat + 100 + registry.length + n :=
    exists_candidate_eq_text (by omega)
  exact ⟨word, hfind.trans hword, by omega, by omega⟩

/-- **All addresses in a registry are in the pool.** -/
def IsPooled (size : Nat) (registry : Registry) : Prop :=
  ∀ entry ∈ registry, ∀ address, entry.2.ipAddress = some address → Address.IsInPool size address

theorem isPooled_nil : IsPooled size [] := by
  intro entry hentry
  cases hentry

theorem IsPooled.insert (h : IsPooled size registry)
    (haddress : ∀ address, registered.ipAddress = some address → Address.IsInPool size address) :
    IsPooled size (Fields.insert registry key registered) := by
  intro entry hentry
  rcases Fields.eq_or_mem_of_mem_insert hentry with rfl | hmem
  · exact haddress
  · exact h entry hmem

/-- A machine that was there may be put in on a free address, when the registry is small enough. -/
theorem IsPooled.insert_free (h : IsPooled size registry) (hlength : registry.length ≤ size)
    (hsize : size < 2 ^ 16) {old : Registered} (hget : Fields.get? registry key = some old)
    (haddress : registered.ipAddress = some (freeAddress registry key)) :
    IsPooled size (Fields.insert registry key registered) := by
  refine h.insert fun address heq => ?_
  cases haddress.symm.trans heq
  exact isInPool_freeAddress hget hlength hsize

/-- **A change of a registry that is small enough stays in the pool.** -/
theorem IsPooled.change (h : IsPooled size registry) (hlength : registry.length ≤ size)
    (hsize : size < 2 ^ 16) (hchange : Change registry changed) : IsPooled size changed := by
  cases hchange with
  | none => exact h
  | create machine datacenterId templateId now hkey hget =>
    refine h.insert fun address haddress => ?_
    cases haddress
  -- the two changes that hand out an address
  | run hkey hget => exact h.insert_free hlength hsize hget rfl
  | restart hkey hget hphase => exact h.insert_free hlength hsize hget rfl
  | stop hkey hget =>
    refine h.insert fun address haddress => ?_
    cases haddress
  | delete hkey hget =>
    intro entry hentry
    exact h entry (Fields.erase_sublist.subset hentry)

/-- **A run that stays small stays in the pool**, though addresses from its larger registries may be
left in smaller ones. -/
theorem IsPooled.after {calls : List (String × Call)} (h : IsPooled size registry)
    (hsize : size < 2 ^ 16) (hbelow : StaysBelow (size + 1) registry calls) :
    IsPooled size (registry.after calls) := by
  refine hbelow.invariant_after h fun registry changed hlength hpooled hchange => ?_
  exact hpooled.change (Nat.lt_succ_iff.mp hlength) hsize hchange

/-! ## What running machines report -/

/-- Two running machines of a coherent registry in a small pool have addresses and hardware
addresses of their own. -/
theorem IsPooled.addresses_differ (h : IsPooled size registry) (hcoherent : registry.IsCoherent)
    (hsize : size ≤ 32768) {other : String} {second : Registered} (hne : key ≠ other)
    (hget : Fields.get? registry key = some registered)
    (hother : Fields.get? registry other = some second) (hrunning : registered.phase = .running)
    (hrunning' : second.phase = .running) :
    ∃ address address', registered.ipAddress = some address ∧ second.ipAddress = some address' ∧
      address ≠ address' ∧ Address.mac address ≠ Address.mac address' := by
  obtain ⟨address, haddress⟩ := Option.isSome_iff_exists.mp
    ((hcoherent.machines key registered hget).hasAddress.mpr hrunning)
  obtain ⟨address', haddress'⟩ := Option.isSome_iff_exists.mp
    ((hcoherent.machines other second hother).hasAddress.mpr hrunning')
  have hdistinct : address ≠ address' := by
    rintro rfl
    exact hcoherent.distinct key other registered second hne hget hother hrunning hrunning'
      (haddress.trans haddress'.symm)
  have hpool : Address.IsInPool size address :=
    h (key, registered) (Fields.mem_of_get?_eq_some hget) address haddress
  have hpool' : Address.IsInPool size address' :=
    h (other, second) (Fields.mem_of_get?_eq_some hother) address' haddress'
  exact ⟨address, address', haddress, haddress', hdistinct,
    Address.mac_ne_of_isInPool hsize hpool hpool' hdistinct⟩

/-- **The pool of addresses is bounded by the size of a run.** In a run from the empty registry in
which there are never more than `size` machines, every address that a machine holds at some time is
in the pool for so many machines. If these are no more than 32768, then machines that run at the
same time report different addresses and different hardware addresses. -/
theorem isInPool_and_macs_differ {calls : List (String × Call)} (hsize : size < 2 ^ 16)
    (hcalls : StaysBelow (size + 1) [] calls) :
    ∀ done, done <+: calls →
      (∀ entry ∈ after [] done, ∀ address, entry.2.ipAddress = some address →
        Address.IsInPool size address) ∧
      (size ≤ 32768 → ∀ id ns id' ns' status status', (ns, id) ≠ (ns', id') →
        Registry.status (after [] done) id ns = .ok status → status.phase = .running →
        Registry.status (after [] done) id' ns' = .ok status' → status'.phase = .running →
        ∃ interface interface', status.interfaces = [interface] ∧
          status.ipAddress = some interface.ipAddress ∧ status'.interfaces = [interface'] ∧
          status'.ipAddress = some interface'.ipAddress ∧
          interface.ipAddress ≠ interface'.ipAddress ∧ interface.mac ≠ interface'.mac) := by
  intro done hdone
  have hbelow : StaysBelow (size + 1) [] done := hcalls.of_prefix hdone
  have hpooled : IsPooled size (after [] done) := isPooled_nil.after hsize hbelow
  refine ⟨hpooled, ?_⟩
  intro hsmall id ns id' ns' status status' hne hstatus hphase hstatus' hphase'
  have hcoherent : IsCoherent (after [] done) := by
    apply isCoherent_nil.after
    apply hbelow.mono
    show size + 1 ≤ 2 ^ 32
    omega
  obtain ⟨key, registered, hkey, hget, rfl⟩ := status_eq_ok_iff.mp hstatus
  obtain ⟨other, second, hother, hgetOther, rfl⟩ := status_eq_ok_iff.mp hstatus'
  have hkeys : key ≠ other := by
    rintro rfl
    exact hne (key_inj hother hkey)
  obtain ⟨address, address', haddress, haddress', hdistinct, hmacs⟩ :=
    hpooled.addresses_differ hcoherent hsmall hkeys hget hgetOther hphase hphase'
  exact ⟨⟨"default", address, Address.mac address⟩, ⟨"default", address', Address.mac address'⟩,
    by simp [Registered.status, haddress], haddress,
    by simp [Registered.status, haddress'], haddress', hdistinct, hmacs⟩

theorem isInPool_and_macs_differ_reusingRun :
    2 < 2 ^ 16 ∧ StaysBelow 3 [] reusingRun ∧
      (∀ entry ∈ after [] reusingRun, ∀ address, entry.2.ipAddress = some address →
        Address.IsInPool 2 address) ∧
      ∃ status status', Registry.status (after [] reusingRun) "a" "acme-dev" = .ok status ∧
        Registry.status (after [] reusingRun) "c" "acme-dev" = .ok status' ∧
        status.interfaces = [⟨"default", "10.128.0.102", "02:00:00:00:00:66"⟩] ∧
        status'.interfaces = [⟨"default", "10.128.0.103", "02:00:00:00:00:67"⟩] ∧
        ∃ interface interface', status.interfaces = [interface] ∧
          status'.interfaces = [interface'] ∧ interface.mac ≠ interface'.mac := by
  have hsize : StaysBelow 3 [] reusingRun := staysBelow_iff_forall_mem_inits.mpr (by decide +kernel)
  obtain ⟨hpool, hreports⟩ := isInPool_and_macs_differ (by decide) hsize reusingRun
    (List.prefix_refl reusingRun)
  refine ⟨by decide, hsize, hpool, _, _, rfl, rfl, by decide +kernel, by decide +kernel, ?_⟩
  obtain ⟨interface, interface', hinterface, -, hinterface', -, -, hmacs⟩ :=
    hreports (by decide) "a" "acme-dev" "c" "acme-dev" _ _ (by decide) rfl (by decide +kernel) rfl
      (by decide +kernel)
  exact ⟨interface, interface', hinterface, hinterface', hmacs⟩

end Registry

end VmProvisioning
