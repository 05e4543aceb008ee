import Mathlib.Data.List.Infix
import VmProvisioning.Proofs.Simulation.Allocation
import VmProvisioning.Proofs.Simulation.Operations

/-!
# Coherence of the registry

The parts of a registered machine fit together, and running machines have addresses of their own.
Every call keeps this as long as the registry is smaller than the set of all addresses, so that
the status of a machine is either that of a running or that of a stopped one.

## Main definitions

* `Registered.IsCoherent`: phase, status text and address of a machine fit together
* `Registry.IsSound`: all machines are coherent
* `Registry.IsCoherent`: all are, and no two running ones share an address
* `Registry.StaysBelow`: a run in which the registry never reaches a size
* `MachineStatus.IsServing`, `MachineStatus.IsIdle`: what running and stopped machines report

## Main results

* `Registry.IsSound.change`: a change keeps all machines coherent
* `Registry.IsCoherent.change`: a change of a registry that is small enough keeps coherence
* `Registry.isCoherent_after_and_reports`: every registry that a run reaches is coherent, and
  reports its machines accordingly
-/

namespace VmProvisioning

/-! ## Coherent machines -/

/-- **The parts of a registered machine fit together.** -/
structure Registered.IsCoherent (registered : Registered) : Prop where
  phase : registered.phase = .stopped ∨ registered.phase = .running
  status : registered.machine.status = registered.phase.name
  hasAddress : registered.ipAddress.isSome ↔ registered.phase = .running
  isNotation : ∀ address, registered.ipAddress = some address →
    ∃ word, address = Address.text word

/-- What a running machine reports: it is ready, on a node, and has one interface, which carries
its address. -/
structure MachineStatus.IsServing (status : MachineStatus) : Prop where
  phase : status.phase = .running
  ready : status.ready = true
  node : ∃ node, status.nodeName = some node
  interface : ∃ interface, status.interfaces = [interface] ∧
    status.ipAddress = some interface.ipAddress

/-- What a stopped machine reports: it is not ready, and has no node, address or interface. -/
structure MachineStatus.IsIdle (status : MachineStatus) : Prop where
  phase : status.phase = .stopped
  ready : status.ready = false
  node : status.nodeName = none
  address : status.ipAddress = none
  interfaces : status.interfaces = []

namespace Registered

variable {registered : Registered}

theorem isCoherent_fresh (machine : Machine) (datacenterId templateId now : String) :
    (fresh machine datacenterId templateId now).IsCoherent where
  phase := .inl rfl
  status := rfl
  hasAddress := by simp [fresh]
  isNotation _ h := by cases h

theorem isCoherent_enter_stopped (registered : Registered) :
    (registered.enter .stopped none).IsCoherent where
  phase := .inl rfl
  status := rfl
  hasAddress := by simp
  isNotation _ h := by cases h

theorem isCoherent_enter_running (registered : Registered) {address : String}
    (h : ∃ word, address = Address.text word) :
    (registered.enter .running (some address)).IsCoherent where
  phase := .inr rfl
  status := rfl
  hasAddress := by simp
  isNotation _ haddress := by
    cases haddress
    exact h

/-- A running machine may be given another address. -/
theorem IsCoherent.readdress (h : registered.IsCoherent) (hphase : registered.phase = .running)
    {address : String} (haddress : ∃ word, address = Address.text word) :
    (registered.readdress address).IsCoherent where
  phase := h.phase
  status := h.status
  hasAddress := by simp [hphase]
  isNotation _ heq := by
    cases heq
    exact haddress

theorem IsCoherent.isServing (h : registered.IsCoherent) (hphase : registered.phase = .running) :
    registered.status.IsServing := by
  obtain ⟨address, haddress⟩ := Option.isSome_iff_exists.mp (h.hasAddress.mpr hphase)
  have hrunning : registered.isRunning = true := by simp [isRunning, hphase]
  exact {
    phase := hphase
    ready := hrunning
    node := ⟨node, by simp [Registered.status, hrunning]⟩
    interface := ⟨⟨"default", address, Address.mac address⟩,
      by simp [Registered.status, haddress], haddress⟩ }

theorem IsCoherent.isIdle (h : registered.IsCoherent) (hphase : registered.phase = .stopped) :
    registered.status.IsIdle := by
  have haddress : registered.ipAddress = none := by
    rw [← Option.not_isSome_iff_eq_none, h.hasAddress, hphase]
    exact Phase.noConfusion
  have hrunning : registered.isRunning = false := by simp [isRunning, hphase]
  exact {
    phase := hphase
    ready := hrunning
    node := by simp [Registered.status, hrunning]
    address := haddress
    interfaces := by simp [Registered.status, haddress] }

end Registered

namespace Registry

variable {registry changed : Registry} {key : String} {registered : Registered}

/-! ## Coherent registries -/

/-- **All machines of a registry are coherent**, whatever its size. -/
structure IsSound (registry : Registry) : Prop where
  isOrdered : Fields.IsOrdered registry
  machines : ∀ key registered, Fields.get? registry key = some registered →
    registered.IsCoherent

theorem isSound_nil : IsSound [] where
  isOrdered := Fields.isOrdered_nil
  machines _ _ h := by cases h

theorem IsSound.insert (h : registry.IsSound) (hregistered : registered.IsCoherent) :
    IsSound (Fields.insert registry key registered) where
  isOrdered := h.isOrdered.insert
  machines other second hsecond := by
    rw [Fields.get?_insert] at hsecond
    split at hsecond
    · exact Option.some.inj hsecond ▸ hregistered
    · exact h.machines other second hsecond

theorem IsSound.get?_of_erase (h : registry.IsSound) {other : String} {second : Registered}
    (hsecond : Fields.get? (Fields.erase registry key) other = some second) :
    Fields.get? registry other = some second := by
  rw [Fields.get?_erase h.isOrdered] at hsecond
  split at hsecond
  · cases hsecond
  · exact hsecond

theorem IsSound.erase (h : registry.IsSound) : IsSound (Fields.erase registry key) where
  isOrdered := h.isOrdered.erase
  machines _ _ hsecond := h.machines _ _ (h.get?_of_erase hsecond)

/-- **A change keeps all machines coherent.** -/
theorem IsSound.change (h : registry.IsSound) (hchange : Change registry changed) :
    changed.IsSound := by
  cases hchange with
  | none => exact h
  | create machine datacenterId templateId now hkey hget =>
    exact h.insert (Registered.isCoherent_fresh ..)
  | run hkey hget =>
    exact h.insert (Registered.isCoherent_enter_running _ (exists_freeAddress_eq_text ..))
  | restart hkey hget hphase =>
    exact h.insert ((h.machines _ _ hget).readdress hphase (exists_freeAddress_eq_text ..))
  | stop hkey hget => exact h.insert (Registered.isCoherent_enter_stopped _)
  | delete hkey hget => exact h.erase

/-- **All machines are coherent**, and no two running ones share an address. -/
structure IsCoherent (registry : Registry) : Prop extends IsSound registry where
  distinct : ∀ key other first second, key ≠ other →
    Fields.get? registry key = some first → Fields.get? registry other = some second →
    first.phase = .running → second.phase = .running → first.ipAddress ≠ second.ipAddress

theorem isCoherent_nil : IsCoherent [] where
  toIsSound := isSound_nil
  distinct _ _ _ _ _ h := by cases h

/-- A coherent machine may be put in when no other machine has its address. -/
theorem IsCoherent.insert (h : registry.IsCoherent) (hregistered : registered.IsCoherent)
    (hfree : ∀ address, registered.ipAddress = some address →
      address ∉ othersAddresses registry key) :
    IsCoherent (Fields.insert registry key registered) := by
  -- The new machine has the address of no other machine that runs.
  have hothers : ∀ other second, key ≠ other → Fields.get? registry other = some second →
      second.phase = .running → registered.ipAddress ≠ second.ipAddress := by
    intro other second hne hsecond hrunning heq
    obtain ⟨address, haddress⟩ := Option.isSome_iff_exists.mp
      ((h.machines other second hsecond).hasAddress.mpr hrunning)
    exact hfree address (heq.trans haddress) ((mem_othersAddresses h.isOrdered).mpr
      ⟨other, second, hne.symm, hsecond, haddress⟩)
  -- Two different machines were both there before, or one of them is the new one.
  refine ⟨h.toIsSound.insert hregistered,
    fun one other first second hne hfirst hsecond hrun₁ hrun₂ => ?_⟩
  rw [Fields.get?_insert] at hfirst hsecond
  split at hfirst <;> split at hsecond
  · next h₁ h₂ => exact absurd (h₁.symm.trans h₂) hne
  · next h₁ h₂ => exact Option.some.inj hfirst ▸ hothers other second h₂ hsecond hrun₂
  · next h₁ h₂ => exact Option.some.inj hsecond ▸ (hothers one first h₁ hfirst hrun₁).symm
  · exact h.distinct one other first second hne hfirst hsecond hrun₁ hrun₂

/-- A coherent machine may be put in on a free address, when the registry is small enough. -/
theorem IsCoherent.insert_free (h : registry.IsCoherent) (hsize : registry.length < UInt32.size)
    (hregistered : registered.IsCoherent)
    (haddress : registered.ipAddress = some (freeAddress registry key)) :
    IsCoherent (Fields.insert registry key registered) := by
  refine h.insert hregistered fun address heq => ?_
  cases haddress.symm.trans heq
  exact freeAddress_notMem hsize

theorem IsCoherent.erase (h : registry.IsCoherent) : IsCoherent (Fields.erase registry key) where
  toIsSound := h.toIsSound.erase
  distinct _ _ _ _ hne hfirst hsecond :=
    h.distinct _ _ _ _ hne (h.get?_of_erase hfirst) (h.get?_of_erase hsecond)

/-- **A change of a registry that is small enough keeps coherence.** -/
theorem IsCoherent.change (h : registry.IsCoherent) (hsize : registry.length < UInt32.size)
    (hchange : Change registry changed) : changed.IsCoherent := by
  cases hchange with
  | none => exact h
  | create machine datacenterId templateId now hkey hget =>
    exact h.insert (Registered.isCoherent_fresh ..) fun _ haddress => by cases haddress
  -- the two changes that hand out an address
  | run hkey hget =>
    exact h.insert_free hsize
      (Registered.isCoherent_enter_running _ (exists_freeAddress_eq_text ..)) rfl
  | restart hkey hget hphase =>
    exact h.insert_free hsize
      ((h.machines _ _ hget).readdress hphase (exists_freeAddress_eq_text ..)) rfl
  | stop hkey hget =>
    exact h.insert (Registered.isCoherent_enter_stopped _) fun _ haddress => by cases haddress
  | delete hkey hget => exact h.erase

/-! ## Runs -/

/-- In a run the registry never reaches a size. -/
def StaysBelow (size : Nat) (registry : Registry) (calls : List (String × Call)) : Prop :=
  ∀ done, done <+: calls → (registry.after done).length < size

theorem StaysBelow.head {size : Nat} {calls : List (String × Call)}
    (h : StaysBelow size registry calls) : registry.length < size :=
  h [] (List.nil_prefix)

theorem StaysBelow.tail {size : Nat} {now : String} {call : Call} {calls : List (String × Call)}
    (h : StaysBelow size registry ((now, call) :: calls)) :
    StaysBelow size ((answer now call).run registry).2 calls :=
  fun done hdone => h ((now, call) :: done) (List.cons_prefix_cons.mpr ⟨rfl, hdone⟩)

theorem StaysBelow.mono {size bound : Nat} {calls : List (String × Call)}
    (h : StaysBelow size registry calls) (hle : size ≤ bound) : StaysBelow bound registry calls :=
  fun done hdone => (h done hdone).trans_le hle

/-- A part of a run stays as small as the run. -/
theorem StaysBelow.of_prefix {size : Nat} {done calls : List (String × Call)}
    (h : StaysBelow size registry calls) (hdone : done <+: calls) :
    StaysBelow size registry done :=
  fun first hfirst => h first (hfirst.trans hdone)

theorem staysBelow_iff_forall_mem_inits {size : Nat} {calls : List (String × Call)} :
    StaysBelow size registry calls ↔ ∀ done ∈ calls.inits, (registry.after done).length < size := by
  simp only [StaysBelow, List.mem_inits]

/-- **An invariant of registries below a size** holds after a run that stays below it. -/
theorem StaysBelow.invariant_after {size : Nat} {calls : List (String × Call)}
    {invariant : Registry → Prop} (hsize : StaysBelow size registry calls)
    (h : invariant registry)
    (hchange : ∀ registry changed : Registry, registry.length < size → invariant registry →
      Change registry changed → invariant changed) : invariant (registry.after calls) := by
  -- Induction on the calls left.
  induction calls generalizing registry with
  | nil => exact h
  | cons entry calls ih =>
    apply ih hsize.tail
    exact hchange _ _ hsize.head h (answer_change entry.1 entry.2 registry)

theorem IsCoherent.after {calls : List (String × Call)} (h : registry.IsCoherent)
    (hsize : StaysBelow UInt32.size registry calls) : (registry.after calls).IsCoherent :=
  hsize.invariant_after h fun _ _ hlength hcoherent => hcoherent.change hlength

theorem Change.length_le (h : Change registry changed) :
    changed.length ≤ registry.length + 1 := by
  cases h with
  | none => omega
  | create machine datacenterId templateId now hkey hget => exact Fields.length_insert_le
  | run hkey hget => exact Fields.length_insert_le
  | restart hkey hget hphase => exact Fields.length_insert_le
  | stop hkey hget => exact Fields.length_insert_le
  | delete hkey hget => exact Fields.erase_sublist.length_le.trans (Nat.le_succ _)

theorem length_after_le (registry : Registry) (calls : List (String × Call)) :
    (registry.after calls).length ≤ registry.length + calls.length := by
  induction calls generalizing registry with
  | nil => simp
  | cons entry calls ih =>
    have hchange := (answer_change entry.1 entry.2 registry).length_le
    have := ih ((answer entry.1 entry.2).run registry).2
    rw [after_cons, List.length_cons]
    omega

/-- A run has to be long to fill the registry. -/
theorem staysBelow_of_length {size : Nat} {calls : List (String × Call)}
    (h : registry.length + calls.length < size) : StaysBelow size registry calls :=
  fun done hdone => by
    have := length_after_le registry done
    have := hdone.length_le
    omega

/-- **Every registry that a run from the empty one reaches is coherent**, and a machine in it
reports as a running or as a stopped one, by its phase. -/
theorem isCoherent_after_and_reports (calls : List (String × Call))
    (hsize : StaysBelow UInt32.size [] calls) :
    (after [] calls).IsCoherent ∧
      ∀ id ns registered, find (after [] calls) id ns = .ok registered →
        ∃ status, Registry.status (after [] calls) id ns = .ok status ∧
          (registered.phase = .running → status.IsServing) ∧
          (registered.phase = .stopped → status.IsIdle) := by
  have hcoherent := isCoherent_nil.after hsize
  refine ⟨hcoherent, fun id ns registered hfind => ⟨registered.status, ?_, ?_⟩⟩
  · rw [Registry.status, hfind]
    rfl
  -- what is found is registered under its key, so it is coherent
  · have hregistered : registered.IsCoherent := by
      cases hkey : Registry.key id ns with
      | error failure => simp [find, hkey, bind, Except.bind] at hfind
      | ok key =>
        rw [find_eq hkey] at hfind
        cases hget : Fields.get? (after [] calls) key with
        | none => simp [hget] at hfind
        | some found =>
          simp only [hget, Except.ok.injEq] at hfind
          exact hfind ▸ hcoherent.machines key found hget
    exact ⟨hregistered.isServing, hregistered.isIdle⟩

/-- A run in which a machine is started when the address for the size of the registry is taken. -/
def reusingRun : List (String × Call) :=
  let machine id := Machine.new id id 1 "2Gi" "30Gi"
  let datacenter : Datacenter := ⟨"acme", "acme", "acme-dev", ⟨0, 0, 0⟩, none⟩
  [.create (machine "a") datacenter (.new "fedora") none,
    .create (machine "b") datacenter (.new "fedora") none, .start "a" "acme-dev",
    .delete "b" "acme-dev", .create (machine "c") datacenter (.new "fedora") none,
    .start "c" "acme-dev"].map fun call => ("2024-05-01T12:00:00Z", call)

theorem isCoherent_after_reusingRun_and_reports :
    StaysBelow UInt32.size [] reusingRun ∧ (after [] reusingRun).IsCoherent ∧
      ∃ status, Registry.status (after [] reusingRun) "c" "acme-dev" = .ok status ∧
        status.IsServing ∧ status.ipAddress = some "10.128.0.103" := by
  have hsize : StaysBelow UInt32.size [] reusingRun := staysBelow_of_length (by decide)
  have hfind : ∃ registered, find (after [] reusingRun) "c" "acme-dev" = .ok registered ∧
      registered.phase = .running ∧ registered.ipAddress = some "10.128.0.103" := by
    refine ⟨_, rfl, ?_, ?_⟩ <;> decide +kernel
  obtain ⟨registered, hfind, hphase, haddress⟩ := hfind
  obtain ⟨hcoherent, hreports⟩ := isCoherent_after_and_reports reusingRun hsize
  obtain ⟨status, hstatus, hserving, -⟩ := hreports "c" "acme-dev" registered hfind
  refine ⟨hsize, hcoherent, status, hstatus, hserving hphase, ?_⟩
  rw [Registry.status, hfind] at hstatus
  cases hstatus
  exact haddress

end Registry

end VmProvisioning
