import VmProvisioning.Proofs.Fields
import VmProvisioning.Simulation.Registry

/-!
# What the operations do to the registry

Every operation first makes the key of its machine. With the key at hand it is a look-up and, when
the phase of the machine allows it, one entry that is put in, replaced or removed.

## Main definitions

* `Registered.fresh`: a machine that has just been registered
* `Registry.Change`: what a single call can do to a registry
* `Registry.after`: the registry after a sequence of calls

## Main results

* `create_eq`, `update_eq`, `delete_eq`, `find_eq`: the operations by the entry at their key
* `answer_change`: every call is a change of one of the six kinds
-/

namespace VmProvisioning

/-- A machine that has just been registered. -/
def Registered.fresh (machine : Machine) (datacenterId templateId createdAt : String) :
    Registered :=
  Registered.enter ⟨machine, datacenterId, templateId, .stopped, none, createdAt⟩ .stopped none

@[simp] theorem Registered.enter_phase (registered : Registered) (phase : Phase)
    (ipAddress : Option String) : (registered.enter phase ipAddress).phase = phase := rfl

@[simp] theorem Registered.enter_ipAddress (registered : Registered) (phase : Phase)
    (ipAddress : Option String) : (registered.enter phase ipAddress).ipAddress = ipAddress := rfl

@[simp] theorem Registered.enter_status (registered : Registered) (phase : Phase)
    (ipAddress : Option String) :
    (registered.enter phase ipAddress).machine.status = phase.name := rfl

@[simp] theorem Registered.readdress_phase (registered : Registered) (address : String) :
    (registered.readdress address).phase = registered.phase := rfl

@[simp] theorem Registered.readdress_ipAddress (registered : Registered) (address : String) :
    (registered.readdress address).ipAddress = some address := rfl

theorem Registered.isRunning_iff {registered : Registered} :
    registered.isRunning = true ↔ registered.phase = .running :=
  beq_iff_eq

@[simp] theorem Registered.fresh_phase (machine : Machine) (datacenterId templateId now : String) :
    (Registered.fresh machine datacenterId templateId now).phase = .stopped := rfl

namespace Registry

variable {registry : Registry} {id ns key : String} {machine : Machine} {datacenter : Datacenter}
  {templateId now : String}

/-! ## Keys -/

theorem key_eq_ok_iff : Registry.key id ns = .ok key ↔
    DnsLabel.validate id = .ok () ∧ key = ns ++ "/" ++ id := by
  rw [Registry.key]
  cases DnsLabel.validate id with
  | error failure => simp [bind, Except.bind]
  | ok => simp [bind, Except.bind, pure, Except.pure, eq_comm]

/-! ## Operations by the entry at their key -/

theorem find_eq (hkey : Registry.key id ns = .ok key) :
    registry.find id ns =
      match Fields.get? registry key with
      | some registered => .ok registered
      | none => .error (notFound id ns) := by
  rw [find, hkey]
  rfl

/-- A machine is found when it is registered under its key. -/
theorem find_eq_ok_iff {registered : Registered} : registry.find id ns = .ok registered ↔
    ∃ key, Registry.key id ns = .ok key ∧ Fields.get? registry key = some registered := by
  cases hkey : Registry.key id ns with
  | error failure => simp [find, hkey, bind, Except.bind]
  | ok key =>
    rw [find_eq hkey]
    cases hget : Fields.get? registry key with
    | none => simp [hget]
    | some found => simp [hget]

theorem status_eq_ok_iff {status : MachineStatus} : registry.status id ns = .ok status ↔
    ∃ key registered, Registry.key id ns = .ok key ∧
      Fields.get? registry key = some registered ∧ registered.status = status := by
  have hmap : registry.status id ns = .ok status ↔
      ∃ registered, registry.find id ns = .ok registered ∧ registered.status = status := by
    rw [Registry.status]
    cases registry.find id ns with
    | error failure => simp [Except.map]
    | ok registered => simp [Except.map]
  rw [hmap]
  constructor
  · rintro ⟨registered, hfind, hstatus⟩
    obtain ⟨key, hkey, hget⟩ := find_eq_ok_iff.mp hfind
    exact ⟨key, registered, hkey, hget, hstatus⟩
  · rintro ⟨key, registered, hkey, hget, hstatus⟩
    exact ⟨registered, find_eq_ok_iff.mpr ⟨key, hkey, hget⟩, hstatus⟩

theorem create_eq (hkey : Registry.key machine.id datacenter.workloadNamespace = .ok key) :
    registry.create machine datacenter templateId now =
      match Fields.get? registry key with
      | some _ => .error (.conflictFor .alreadyExists datacenter.workloadNamespace machine.id)
      | none => .ok (Fields.insert registry key (.fresh machine datacenter.id templateId now)) := by
  cases hget : Fields.get? registry key <;>
    simp [create, hkey, Fields.contains, hget, bind, Except.bind, pure, Except.pure, throw,
      throwThe, MonadExceptOf.throw, Registered.fresh]

theorem update_eq (change : Registered → String → Except Failure Registered)
    (hkey : Registry.key id ns = .ok key) :
    registry.update id ns change =
      match Fields.get? registry key with
      | some registered =>
        (change registered (freeAddress registry key)).map (Fields.insert registry key)
      | none => .error (notFound id ns) := by
  simp only [update, hkey, bind, Except.bind, pure, Except.pure]
  cases Fields.get? registry key with
  | none => rfl
  | some registered => cases change registered (freeAddress registry key) <;> rfl

theorem delete_eq (hkey : Registry.key id ns = .ok key) :
    registry.delete id ns =
      match Fields.get? registry key with
      | some _ => .ok (Fields.erase registry key)
      | none => .error (notFound id ns) := by
  cases hget : Fields.get? registry key <;>
    simp [delete, hkey, Fields.contains, hget, bind, Except.bind, pure, Except.pure, throw,
      throwThe, MonadExceptOf.throw]

/-! ## Changes -/

/-- **What a single call can do to a registry.** -/
inductive Change (registry : Registry) : Registry → Prop
  /-- A call that fails or only reads. -/
  | none : Change registry registry
  /-- A machine is registered under a key of its own. -/
  | create {id ns key : String} (machine : Machine) (datacenterId templateId now : String) :
    Registry.key id ns = .ok key → Fields.get? registry key = .none →
    Change registry (Fields.insert registry key (.fresh machine datacenterId templateId now))
  /-- A machine starts to run, on a free address. -/
  | run {id ns key : String} {registered : Registered} :
    Registry.key id ns = .ok key → Fields.get? registry key = some registered →
    Change registry (Fields.insert registry key
      (registered.enter .running (some (freeAddress registry key))))
  /-- A running machine gets a free address in place of its own. -/
  | restart {id ns key : String} {registered : Registered} :
    Registry.key id ns = .ok key → Fields.get? registry key = some registered →
    registered.phase = .running →
    Change registry (Fields.insert registry key
      (registered.readdress (freeAddress registry key)))
  /-- A machine gives up its address. -/
  | stop {id ns key : String} {registered : Registered} :
    Registry.key id ns = .ok key → Fields.get? registry key = some registered →
    Change registry (Fields.insert registry key (registered.enter .stopped .none))
  /-- A machine is removed. -/
  | delete {id ns key : String} {registered : Registered} :
    Registry.key id ns = .ok key → Fields.get? registry key = some registered →
    Change registry (Fields.erase registry key)

/-- A change keeps the order of the keys. -/
theorem Change.isOrdered {changed : Registry} (h : Change registry changed)
    (hordered : Fields.IsOrdered registry) : Fields.IsOrdered changed := by
  cases h with
  | none => exact hordered
  | create => exact hordered.insert
  | run => exact hordered.insert
  | restart => exact hordered.insert
  | stop => exact hordered.insert
  | delete => exact hordered.erase

/-- A change is one where the operation succeeds with it. -/
theorem settle_change {outcome : Except Failure Registry}
    (h : ∀ changed, outcome = .ok changed → Change registry changed) :
    Change registry (registry.settle outcome).2 := by
  cases outcome with
  | error failure => exact .none
  | ok changed => exact h changed rfl

/-- Registering a machine succeeds when its key is free. -/
theorem create_eq_ok_iff {changed : Registry} :
    registry.create machine datacenter templateId now = .ok changed ↔
      ∃ key, Registry.key machine.id datacenter.workloadNamespace = .ok key ∧
        Fields.get? registry key = none ∧
        changed = Fields.insert registry key (.fresh machine datacenter.id templateId now) := by
  cases hkey : Registry.key machine.id datacenter.workloadNamespace with
  | error failure => simp [create, hkey, bind, Except.bind]
  | ok key =>
    rw [create_eq hkey]
    cases hget : Fields.get? registry key with
    | some registered => simp [hget]
    | none => simp [hget, eq_comm]

theorem create_change {changed : Registry}
    (h : registry.create machine datacenter templateId now = .ok changed) :
    Change registry changed := by
  obtain ⟨key, hkey, hget, rfl⟩ := create_eq_ok_iff.mp h
  exact .create _ _ _ _ hkey hget

theorem update_change {change : Registered → String → Except Failure Registered}
    {changed : Registry} (h : registry.update id ns change = .ok changed) :
    ∃ key registered updated, Registry.key id ns = .ok key ∧
      Fields.get? registry key = some registered ∧
      change registered (freeAddress registry key) = .ok updated ∧
      changed = Fields.insert registry key updated := by
  cases hkey : Registry.key id ns with
  | error failure => simp [update, hkey, bind, Except.bind] at h
  | ok key =>
    rw [update_eq change hkey] at h
    cases hget : Fields.get? registry key with
    | none => simp [hget] at h
    | some registered =>
      cases hchange : change registered (freeAddress registry key) with
      | error failure => simp [hget, hchange, Except.map] at h
      | ok updated =>
        simp only [hget, hchange, Except.map, Except.ok.injEq] at h
        exact ⟨key, registered, updated, rfl, hget, hchange, h.symm⟩

theorem start_change {changed : Registry} (h : registry.start id ns = .ok changed) :
    Change registry changed := by
  obtain ⟨key, registered, updated, hkey, hget, hchange, rfl⟩ := update_change h
  split at hchange
  · cases hchange
  · cases hchange
    exact .run hkey hget

theorem stop_change {changed : Registry} (h : registry.stop id ns = .ok changed) :
    Change registry changed := by
  obtain ⟨key, registered, updated, hkey, hget, hchange, rfl⟩ := update_change h
  split at hchange
  · cases hchange
    exact .stop hkey hget
  · cases hchange

theorem restart_change {changed : Registry} (h : registry.restart id ns = .ok changed) :
    Change registry changed := by
  obtain ⟨key, registered, updated, hkey, hget, hchange, rfl⟩ := update_change h
  split at hchange
  · next hrunning =>
    cases hchange
    exact .restart hkey hget (Registered.isRunning_iff.mp hrunning)
  · cases hchange

/-- Deleting a machine succeeds when it is there. -/
theorem delete_eq_ok_iff {changed : Registry} :
    registry.delete id ns = .ok changed ↔
      ∃ key registered, Registry.key id ns = .ok key ∧
        Fields.get? registry key = some registered ∧ changed = Fields.erase registry key := by
  cases hkey : Registry.key id ns with
  | error failure => simp [delete, hkey, bind, Except.bind]
  | ok key =>
    rw [delete_eq hkey]
    cases hget : Fields.get? registry key with
    | none => simp [hget]
    | some registered => simp [hget, eq_comm]

theorem delete_change {changed : Registry} (h : registry.delete id ns = .ok changed) :
    Change registry changed := by
  obtain ⟨key, registered, hkey, hget, rfl⟩ := delete_eq_ok_iff.mp h
  exact .delete hkey hget

/-- **Every call is a change** of one of the six kinds. -/
theorem answer_change (now : String) (call : Call) (registry : Registry) :
    Change registry ((answer now call).run registry).2 := by
  cases call with
  | create machine datacenter template base => exact settle_change fun _ => create_change
  | start id ns => exact settle_change fun _ => start_change
  | stop id ns => exact settle_change fun _ => stop_change
  | restart id ns => exact settle_change fun _ => restart_change
  | delete id ns => exact settle_change fun _ => delete_change
  | status id ns => exact .none
  | ipAddress id ns => exact .none
  | consoleUrl id ns => exact .none
  | check => exact .none

/-! ## Runs -/

/-- **The registry after a sequence of calls**, each with its time. -/
def after (registry : Registry) (calls : List (String × Call)) : Registry :=
  calls.foldl (fun registry (now, call) => ((answer now call).run registry).2) registry

@[simp] theorem after_nil (registry : Registry) : registry.after [] = registry := rfl

@[simp] theorem after_cons (registry : Registry) (now : String) (call : Call)
    (calls : List (String × Call)) :
    registry.after ((now, call) :: calls) = ((answer now call).run registry).2.after calls := rfl

theorem after_append (registry : Registry) (first second : List (String × Call)) :
    registry.after (first ++ second) = (registry.after first).after second :=
  List.foldl_append

end Registry

end VmProvisioning
