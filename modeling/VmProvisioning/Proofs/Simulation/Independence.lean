import Mathlib.Data.Set.Insert
import VmProvisioning.Proofs.Simulation.Refinement

/-!
# Machines are independent

The registry keeps all machines in one map, but no machine can tell. What a call on a machine gives
is decided by the earlier calls on the same machine alone, and a call on another machine leaves its
entry as it is, whatever slashes stand in the namespaces of both.

## Main definitions

* `Call.isAbout`, `Call.keepsMachines`: the calls on one machine, and those that neither create nor
  delete
* `Stage.answer`: a machine on its own, as an automaton with three states
* `observationsAbout`: what is observed of one machine in a run
* `Registry.machines`: the machines that a registry holds

## Main results

* `find_insert`, `find_erase`: what is found after a change
* `Stages.observationsAbout_eq`: stages of machines change independently
* `find_answer_of_ne`: a call on another machine does not change what is found
* `answer_of_error`: a call that fails changes nothing
* `machines_create`, `machines_settle_delete`, `machines_answer_of_keeps`: what the calls do to the
  machines of a registry
* `observationsAbout_eq_and_frame`: the registry refines independent machines
-/

namespace VmProvisioning

/-- Whether a call is about a machine, given by namespace and id. -/
def Call.isAbout (target : String × String) (call : Call) : Bool :=
  call.target? == some target

theorem Call.isAbout_iff {target : String × String} {call : Call} :
    call.isAbout target = true ↔ call.target? = some target :=
  beq_iff_eq

/-- Whether a call neither creates nor deletes. -/
def Call.keepsMachines : Call → Bool
  | create .. | delete .. => false
  | start .. | stop .. | restart .. | status .. | ipAddress .. | consoleUrl .. | check => true

/-! ## A machine on its own -/

/-- **A machine on its own**: what a call on it gives, and its next stage. A machine whose id is not
a label refuses every call. -/
def Stage.answer (ns id : String) (call : Call) : StateM Stage (Except Failure Observation) :=
  fun stage =>
    match DnsLabel.validate id, Stage.step ns id call stage with
    | .error failure, _ | .ok (), .error failure => (.error failure, stage)
    | .ok (), .ok (observation, next) => (.ok observation, next)

/-- **What is observed of one machine in a run**: the observations of the calls on it, in order. -/
def observationsAbout {σ : Type}
    (step : String × Call → StateM σ (Except Failure Observation)) (target : String × String)
    (calls : List (String × Call)) (state : σ) : List (Except Failure Observation) :=
  ((calls.zip (observations step calls state)).filter fun entry =>
    entry.1.2.isAbout target).map Prod.snd

namespace Stages

variable {call : Call} {ns id : String} {stages : Stages}

/-- A call on a machine is the call on the machine on its own. -/
theorem step_of_target (htarget : call.target? = some (ns, id)) :
    (step call).run stages =
      (((Stage.answer ns id call).run (stages (ns, id))).1,
        Function.update stages (ns, id) ((Stage.answer ns id call).run (stages (ns, id))).2) := by
  cases hvalid : DnsLabel.validate id with
  | error failure =>
    rw [step_of_invalid htarget hvalid]
    simp [Stage.answer, StateT.run, hvalid]
  | ok =>
    cases hstep : Stage.step ns id call (stages (ns, id)) with
    | error failure =>
      rw [step_of_error htarget hvalid hstep]
      simp [Stage.answer, StateT.run, hvalid, hstep]
    | ok outcome =>
      rw [step_of_ok htarget hvalid hstep]
      simp [Stage.answer, StateT.run, hvalid, hstep]

/-- A call that is about another machine, or about none, leaves a machine in its stage. -/
theorem step_of_ne {target : String × String} (htarget : call.target? ≠ some target) :
    ((step call).run stages).2 target = stages target := by
  cases hother : call.target? with
  | none => simp [step, StateT.run, hother]
  | some other =>
    obtain ⟨ns, id⟩ := other
    have hne : target ≠ (ns, id) := by
      rintro rfl
      exact htarget hother
    rw [step_of_target hother]
    exact Function.update_of_ne hne _ _

/-- **Stages of machines change independently**: in a run, a machine is observed as if it were on
its own and only the calls on it were made. -/
theorem observationsAbout_eq (ns id : String) (calls : List (String × Call)) (stages : Stages) :
    observationsAbout (fun entry => step entry.2) (ns, id) calls stages =
      observations (fun entry => Stage.answer ns id entry.2)
        (calls.filter fun entry => entry.2.isAbout (ns, id)) (stages (ns, id)) := by
  -- Induction on the calls left; the machine on its own is in the stage that it has among all.
  induction calls generalizing stages with
  | nil => rfl
  | cons entry calls ih =>
    have hrest := ih ((step entry.2).run stages).2
    simp only [observationsAbout] at hrest
    cases habout : entry.2.isAbout (ns, id) with
    | true =>
      have htarget := Call.isAbout_iff.mp habout
      rw [step_of_target htarget] at hrest
      simp only [Function.update_self] at hrest
      simp only [observationsAbout, observations, List.zip_cons_cons, List.filter_cons, habout,
        if_true, List.map_cons]
      rw [step_of_target htarget, hrest]
    | false =>
      have htarget : entry.2.target? ≠ some (ns, id) := by
        intro h
        rw [Call.isAbout_iff.mpr h] at habout
        cases habout
      rw [step_of_ne htarget] at hrest
      simp only [observationsAbout, observations, List.zip_cons_cons, List.filter_cons, habout,
        Bool.false_eq_true, if_false]
      exact hrest

end Stages

namespace Registry

variable {registry changed : Registry} {registered : Registered} {id ns key : String}

/-! ## What is found after a change -/

/-- Nothing is found under an id that is not a label. -/
theorem find_of_invalid {failure : Failure} (registry : Registry) (ns : String)
    (h : DnsLabel.validate id = .error failure) : registry.find id ns = .error failure := by
  rw [find, key_of_invalid h]
  rfl

/-- Registries that differ at the key of one machine only find the same of every other machine. -/
theorem find_eq_of_ne {id' ns' : String} (hkey : Registry.key id ns = .ok key)
    (hne : (ns', id') ≠ (ns, id))
    (hothers : ∀ other, key ≠ other → Fields.get? changed other = Fields.get? registry other) :
    changed.find id' ns' = registry.find id' ns' := by
  cases hvalid : DnsLabel.validate id' with
  | error failure => rw [find_of_invalid changed ns' hvalid, find_of_invalid registry ns' hvalid]
  | ok =>
    have hkey' := key_of_valid ns' hvalid
    have hkeys : key ≠ ns' ++ "/" ++ id' := by
      rintro rfl
      exact hne (key_inj hkey hkey')
    rw [find_eq hkey', find_eq hkey', hothers _ hkeys]

/-- What is found after an entry was put in. -/
theorem find_insert (hkey : Registry.key id ns = .ok key) (id' ns' : String) :
    find (Fields.insert registry key registered) id' ns' =
      if (ns', id') = (ns, id) then .ok registered else registry.find id' ns' := by
  by_cases heq : (ns', id') = (ns, id)
  · obtain ⟨rfl, rfl⟩ := Prod.mk.inj heq
    rw [if_pos rfl, find_eq hkey, Fields.get?_insert, if_pos rfl]
  · rw [if_neg heq]
    refine find_eq_of_ne hkey heq fun other hne => ?_
    rw [Fields.get?_insert, if_neg hne]

/-- What is found of another machine after an entry was removed. -/
theorem find_erase_of_ne {id' ns' : String} (hkey : Registry.key id ns = .ok key)
    (hne : (ns', id') ≠ (ns, id)) :
    find (Fields.erase registry key) id' ns' = registry.find id' ns' :=
  find_eq_of_ne hkey hne fun _ => Fields.get?_erase_of_ne

/-- What is found after an entry was removed. -/
theorem find_erase (hord : Fields.IsOrdered registry) (hkey : Registry.key id ns = .ok key)
    (id' ns' : String) :
    find (Fields.erase registry key) id' ns' =
      if (ns', id') = (ns, id) then .error (notFound id ns) else registry.find id' ns' := by
  by_cases heq : (ns', id') = (ns, id)
  · obtain ⟨rfl, rfl⟩ := Prod.mk.inj heq
    rw [if_pos rfl, find_eq hkey, Fields.get?_erase hord, if_pos rfl]
  · rw [if_neg heq, find_erase_of_ne hkey heq]

/-! ## Calls on other machines -/

/-- What an operation leaves of another machine, when it succeeds with an entry put in. -/
theorem find_update_of_ne {id' ns' : String}
    {change : Registered → String → Except Failure Registered} (hne : (ns', id') ≠ (ns, id)) :
    find (registry.settle (registry.update id ns change)).2 id' ns' = registry.find id' ns' := by
  cases hupdate : registry.update id ns change with
  | error failure => rfl
  | ok changed =>
    obtain ⟨key, registered, updated, hkey, -, -, rfl⟩ := update_change hupdate
    simp only [settle]
    rw [find_insert hkey, if_neg hne]

theorem find_create_of_ne {id' ns' : String} {machine : Machine} {datacenter : Datacenter}
    {templateId now : String} (hne : (ns', id') ≠ (datacenter.workloadNamespace, machine.id)) :
    find (registry.settle (registry.create machine datacenter templateId now)).2 id' ns' =
      registry.find id' ns' := by
  cases hcreate : registry.create machine datacenter templateId now with
  | error failure => rfl
  | ok changed =>
    obtain ⟨key, hkey, -, rfl⟩ := create_eq_ok_iff.mp hcreate
    simp only [settle]
    rw [find_insert hkey, if_neg hne]

theorem find_delete_of_ne {id' ns' : String} (hne : (ns', id') ≠ (ns, id)) :
    find (registry.settle (registry.delete id ns)).2 id' ns' = registry.find id' ns' := by
  cases hdelete : registry.delete id ns with
  | error failure => rfl
  | ok changed =>
    obtain ⟨key, registered, hkey, -, rfl⟩ := delete_eq_ok_iff.mp hdelete
    simp only [settle]
    rw [find_erase_of_ne hkey hne]

/-- **A call on another machine** does not change what is found. -/
theorem find_answer_of_ne (now : String) {call : Call} (registry : Registry)
    (htarget : call.target? ≠ some (ns, id)) :
    find ((answer now call).run registry).2 id ns = registry.find id ns := by
  have hne : ∀ target, call.target? = some target → (ns, id) ≠ target := by
    rintro target h rfl
    exact htarget h
  cases call with
  | create machine datacenter template base => exact find_create_of_ne (hne _ rfl)
  | start => exact find_update_of_ne (hne _ rfl)
  | stop => exact find_update_of_ne (hne _ rfl)
  | restart => exact find_update_of_ne (hne _ rfl)
  | delete => exact find_delete_of_ne (hne _ rfl)
  | status => rfl
  | ipAddress => rfl
  | consoleUrl => rfl
  | check => rfl

/-- An operation that fails changes nothing. -/
theorem settle_of_error {outcome : Except Failure Registry} {failure : Failure}
    (h : (registry.settle outcome).1 = .error failure) :
    (registry.settle outcome).2 = registry := by
  cases outcome with
  | error => rfl
  | ok => cases h

/-- **A call that fails** changes nothing. -/
theorem answer_of_error {now : String} {call : Call} {failure : Failure}
    (h : ((answer now call).run registry).1 = .error failure) :
    ((answer now call).run registry).2 = registry := by
  cases call with
  | create => exact settle_of_error h
  | start => exact settle_of_error h
  | stop => exact settle_of_error h
  | restart => exact settle_of_error h
  | delete => exact settle_of_error h
  | status => rfl
  | ipAddress => rfl
  | consoleUrl => rfl
  | check => rfl

/-! ## The machines of a registry -/

/-- **The machines that a registry holds**, by namespace and id. -/
def machines (registry : Registry) : Set (String × String) :=
  {target | ∃ registered, registry.find target.2 target.1 = .ok registered}

theorem mem_machines_iff (hkey : Registry.key id ns = .ok key) :
    (ns, id) ∈ machines registry ↔ ∃ registered, Fields.get? registry key = some registered := by
  show (∃ registered, registry.find id ns = .ok registered) ↔ _
  rw [find_eq hkey]
  cases Fields.get? registry key with
  | none => simp
  | some registered => simp

/-- A machine that is there has a key. -/
theorem key_of_mem_machines (h : (ns, id) ∈ machines registry) :
    Registry.key id ns = .ok (ns ++ "/" ++ id) := by
  obtain ⟨registered, hfind⟩ := h
  obtain ⟨key, hkey, -⟩ := find_eq_ok_iff.mp hfind
  obtain ⟨-, rfl⟩ := key_eq_ok_iff.mp hkey
  exact hkey

theorem machines_insert (hkey : Registry.key id ns = .ok key) :
    machines (Fields.insert registry key registered) = insert (ns, id) (machines registry) := by
  ext target
  show (∃ found, find (Fields.insert registry key registered) target.2 target.1 = .ok found) ↔ _
  rw [find_insert hkey, Set.mem_insert_iff]
  by_cases heq : target = (ns, id)
  · simp [heq]
  · simp [heq, machines]

theorem machines_erase (hordered : Fields.IsOrdered registry)
    (hkey : Registry.key id ns = .ok key) :
    machines (Fields.erase registry key) = {target ∈ machines registry | target ≠ (ns, id)} := by
  ext target
  show (∃ found, find (Fields.erase registry key) target.2 target.1 = .ok found) ↔ _
  rw [find_erase hordered hkey, Set.mem_ofPred_eq]
  by_cases heq : target = (ns, id)
  · simp [heq]
  · simp [heq, machines]

/-- A machine that is registered was not there before. -/
theorem machines_create {machine : Machine} {datacenter : Datacenter} {templateId now : String}
    (h : registry.create machine datacenter templateId now = .ok changed) :
    (datacenter.workloadNamespace, machine.id) ∉ machines registry ∧
      machines changed = insert (datacenter.workloadNamespace, machine.id) (machines registry) := by
  obtain ⟨key, hkey, hget, rfl⟩ := create_eq_ok_iff.mp h
  refine ⟨?_, machines_insert hkey⟩
  rw [mem_machines_iff hkey, hget]
  simp

/-- A machine that is there can be deleted, and is gone then. -/
theorem machines_delete (hordered : Fields.IsOrdered registry) (h : (ns, id) ∈ machines registry) :
    ∃ changed, registry.delete id ns = .ok changed ∧
      machines changed = {target ∈ machines registry | target ≠ (ns, id)} := by
  have hkey := key_of_mem_machines h
  obtain ⟨registered, hget⟩ := (mem_machines_iff hkey).mp h
  exact ⟨_, delete_eq_ok_iff.mpr ⟨_, registered, hkey, hget, rfl⟩, machines_erase hordered hkey⟩

/-- A deletion removes the machine if it is there, and no other one. -/
theorem machines_settle_delete (id ns : String) (hordered : Fields.IsOrdered registry) :
    machines (registry.settle (registry.delete id ns)).2 =
      {other ∈ machines registry | other ≠ (ns, id)} := by
  by_cases hmem : (ns, id) ∈ machines registry
  · obtain ⟨changed, hdelete, hmachines⟩ := machines_delete hordered hmem
    rw [hdelete]
    exact hmachines
  · have hkept : {other ∈ machines registry | other ≠ (ns, id)} = machines registry :=
      Set.sep_eq_self_iff_mem_true.mpr fun other hother heq => hmem (heq ▸ hother)
    cases hdelete : registry.delete id ns with
    | error failure => exact hkept.symm
    | ok changed =>
      obtain ⟨key, registered, hkey, hget, -⟩ := delete_eq_ok_iff.mp hdelete
      exact absurd ((mem_machines_iff hkey).mpr ⟨registered, hget⟩) hmem

/-- An entry that is replaced stays the entry of the same machine. -/
theorem machines_update (change : Registered → String → Except Failure Registered) :
    machines (registry.settle (registry.update id ns change)).2 = machines registry := by
  cases hupdate : registry.update id ns change with
  | error failure => rfl
  | ok changed =>
    obtain ⟨key, registered, updated, hkey, hget, -, rfl⟩ := update_change hupdate
    show machines (Fields.insert registry key updated) = _
    rw [machines_insert hkey,
      Set.insert_eq_of_mem ((mem_machines_iff hkey).mpr ⟨registered, hget⟩)]

/-- **A call that neither creates nor deletes** leaves the machines there that are there. -/
theorem machines_answer_of_keeps (now : String) {call : Call} (h : call.keepsMachines = true) :
    machines ((answer now call).run registry).2 = machines registry := by
  cases call with
  | create => cases h
  | delete => cases h
  | start => exact machines_update _
  | stop => exact machines_update _
  | restart => exact machines_update _
  | status => rfl
  | ipAddress => rfl
  | consoleUrl => rfl
  | check => rfl

/-- **The registry refines independent machines.** In a run from the empty registry a machine is
observed as if it were on its own and only the calls on it were made. No call on another machine
changes what is found of it, and a call that fails changes nothing at all. -/
theorem observationsAbout_eq_and_frame (calls : List (String × Call)) (ns id : String) :
    observationsAbout (fun entry => entry.2.observed (answer entry.1)) (ns, id) calls [] =
        observations (fun entry => Stage.answer ns id entry.2)
          (calls.filter fun entry => entry.2.isAbout (ns, id)) .absent ∧
      ∀ (registry : Registry) (now : String) (call : Call),
        (call.target? ≠ some (ns, id) →
          find ((answer now call).run registry).2 id ns = registry.find id ns) ∧
        ∀ failure, ((answer now call).run registry).1 = .error failure →
          ((answer now call).run registry).2 = registry := by
  refine ⟨?_, fun registry now call =>
    ⟨find_answer_of_ne now registry, fun failure => answer_of_error⟩⟩
  -- All machines are observed like their stages, and these change independently.
  have hstages : observations (fun entry => entry.2.observed (answer entry.1)) calls [] =
      observations (fun entry => Stages.step entry.2) calls (stages []) :=
    simulates_stages.observations_eq (fun _ _ => trivial) ⟨isSound_nil, rfl⟩
  have habsent : stages [] (ns, id) = .absent := by
    cases hvalid : DnsLabel.validate id with
    | error failure => exact stages_of_invalid hvalid
    | ok => exact stages_eq [] (key_of_valid ns hvalid)
  have hindependent := Stages.observationsAbout_eq ns id calls (stages [])
  rw [habsent] at hindependent
  rw [observationsAbout, hstages]
  exact hindependent

end Registry

end VmProvisioning
