import VmProvisioning.Proofs.DnsLabel
import VmProvisioning.Proofs.Lifecycle
import VmProvisioning.Proofs.Simulation.Coherence

/-!
# The registry as stages of machines

A registry keeps machines under texts made of namespace and id. As an id has no slash, the text
determines both, and every call on the registry is the call on the stages of its machines.

## Main definitions

* `Registry.stages`: the stages of the machines in a registry

## Main results

* `key_inj`: machines with one key are the same
* `stages_insert`, `stages_erase`: the stages after a change
* `simulates_stages`: the registry simulates the stages of machines
-/

namespace VmProvisioning

/-- The stage of a registered machine. -/
def Registered.stage (registered : Registered) : Stage :=
  if registered.isRunning then .running else .stopped

theorem Registered.stage_of_isRunning {registered : Registered}
    (h : registered.isRunning = true) : registered.stage = .running := by
  rw [stage, if_pos h]

theorem Registered.stage_of_not_isRunning {registered : Registered}
    (h : registered.isRunning = false) : registered.stage = .stopped := by
  rw [stage, h]
  rfl

namespace Registry

variable {registry : Registry} {registered : Registered} {id ns key : String}

/-! ## Keys -/

/-- A text whose last part has no slash can be split at another slash in front of it only. -/
theorem append_slash_eq_iff {first second rest tail : List Char} (hrest : '/' ∉ rest) :
    first ++ '/' :: rest = second ++ '/' :: tail ↔
      first = second ∧ rest = tail ∨
        ∃ middle, first = second ++ '/' :: middle ∧ tail = middle ++ '/' :: rest := by
  constructor
  · intro h
    rcases List.append_eq_append_iff.mp h with ⟨middle, rfl, heq⟩ | ⟨middle, rfl, heq⟩
    -- The second part is not longer: its slash would stand in the last part of the text.
    · cases middle with
      | nil => exact .inl (by simpa using heq)
      | cons c middle =>
        obtain ⟨-, rfl⟩ := List.cons.inj heq
        simp at hrest
    -- What the first part has more begins with the other slash.
    · cases middle with
      | nil => exact .inl (by simpa [eq_comm] using heq)
      | cons c middle =>
        obtain ⟨rfl, rfl⟩ := List.cons.inj heq
        exact .inr ⟨middle, rfl, rfl⟩
  · rintro (⟨rfl, rfl⟩ | ⟨middle, rfl, rfl⟩)
    · rfl
    · simp

theorem append_slash_inj {first second rest tail : List Char} (hrest : '/' ∉ rest)
    (htail : '/' ∉ tail) (h : first ++ '/' :: rest = second ++ '/' :: tail) :
    first = second ∧ rest = tail := by
  rcases (append_slash_eq_iff hrest).mp h with hboth | ⟨middle, -, rfl⟩
  · exact hboth
  · simp at htail

/-- **Machines with one key are the same**, whatever their namespaces look like. -/
theorem key_inj {id' ns' : String} (h : Registry.key id ns = .ok key)
    (h' : Registry.key id' ns' = .ok key) : (ns', id') = (ns, id) := by
  obtain ⟨hvalid, rfl⟩ := key_eq_ok_iff.mp h
  obtain ⟨hvalid', heq⟩ := key_eq_ok_iff.mp h'
  have hchars : ns.toList ++ '/' :: id.toList = ns'.toList ++ '/' :: id'.toList := by
    simpa using congrArg String.toList heq
  obtain ⟨hns, hid⟩ := append_slash_inj (DnsLabel.isLabelText_of_validate hvalid).slash_notMem
    (DnsLabel.isLabelText_of_validate hvalid').slash_notMem hchars
  rw [String.toList_inj.mp hns, String.toList_inj.mp hid]

theorem key_of_invalid {failure : Failure} (h : DnsLabel.validate id = .error failure) :
    Registry.key id ns = .error failure := by
  rw [Registry.key, h]
  rfl

theorem key_of_valid (ns : String) (h : DnsLabel.validate id = .ok ()) :
    Registry.key id ns = .ok (ns ++ "/" ++ id) :=
  key_eq_ok_iff.mpr ⟨h, rfl⟩

/-! ## Stages -/

/-- **The stages of the machines in a registry.** -/
def stages (registry : Registry) : Stages := fun (ns, id) =>
  match registry.find id ns with
  | .ok registered => registered.stage
  | .error _ => .absent

theorem stages_eq (registry : Registry) (hkey : Registry.key id ns = .ok key) :
    registry.stages (ns, id) = ((Fields.get? registry key).map Registered.stage).getD .absent := by
  rw [stages, find_eq hkey]
  cases Fields.get? registry key <;> rfl

theorem stages_of_invalid {failure : Failure} (h : DnsLabel.validate id = .error failure) :
    registry.stages (ns, id) = .absent := by
  simp [stages, find, key_of_invalid h, bind, Except.bind]

/-- Registries whose look-ups differ at one key only have the same stages but for that machine. -/
theorem stages_eq_update {changed : Registry} {stage : Stage} (hkey : Registry.key id ns = .ok key)
    (hget : ((Fields.get? changed key).map Registered.stage).getD .absent = stage)
    (hothers : ∀ other, key ≠ other → Fields.get? changed other = Fields.get? registry other) :
    changed.stages = Function.update registry.stages (ns, id) stage := by
  funext ⟨ns', id'⟩
  by_cases heq : (ns', id') = (ns, id)
  · rw [heq, Function.update_self, stages_eq changed hkey, hget]
  · rw [Function.update_of_ne heq]
    cases hvalid : DnsLabel.validate id' with
    | error failure => rw [stages_of_invalid hvalid, stages_of_invalid hvalid]
    | ok =>
      -- Another machine has another key.
      have hne : key ≠ ns' ++ "/" ++ id' := by
        rintro rfl
        exact heq (key_inj hkey (key_of_valid ns' hvalid))
      rw [stages_eq changed (key_of_valid ns' hvalid),
        stages_eq registry (key_of_valid ns' hvalid), hothers _ hne]

theorem stages_insert (hkey : Registry.key id ns = .ok key) :
    stages (Fields.insert registry key registered) =
      Function.update registry.stages (ns, id) registered.stage :=
  stages_eq_update hkey (by simp [Fields.get?_insert]) fun other hne => by
    rw [Fields.get?_insert, if_neg hne]

theorem stages_erase (hord : Fields.IsOrdered registry) (hkey : Registry.key id ns = .ok key) :
    stages (Fields.erase registry key) = Function.update registry.stages (ns, id) .absent :=
  stages_eq_update hkey (by simp [Fields.get?_erase hord]) fun other hne =>
    Fields.get?_erase_of_ne hne

/-! ## Calls -/

variable {call : Call}

/-- A call that changes a machine by its stage is the call on the stages. -/
theorem step_update {change : Registered → String → Except Failure Registered}
    (htarget : call.target? = some (ns, id))
    (habsent : Stage.step ns id call .absent = .error (notFound id ns))
    (hchange : ∀ registered address, Stage.step ns id call registered.stage =
      (change registered address).map fun changed => (.done, changed.stage)) :
    (Stages.step call).run registry.stages =
      ((registry.settle (registry.update id ns change)).1.map fun _ => .done,
        (registry.settle (registry.update id ns change)).2.stages) := by
  -- Both check the id, then look for the machine, and then let its stage decide.
  cases hvalid : DnsLabel.validate id with
  | error failure =>
    rw [Stages.step_of_invalid htarget hvalid]
    simp [update, key_of_invalid hvalid, settle, bind, Except.bind, Except.map]
  | ok =>
    have hkey := key_of_valid ns hvalid
    have hstage := registry.stages_eq hkey
    rw [update_eq change hkey]
    cases hget : Fields.get? registry (ns ++ "/" ++ id) with
    | none =>
      rw [hget] at hstage
      rw [Stages.step_of_error htarget hvalid (by rw [hstage]; exact habsent)]
      simp [settle, Except.map]
    | some registered =>
      rw [hget] at hstage
      have hstep := hchange registered (freeAddress registry (ns ++ "/" ++ id))
      cases hchanged : change registered (freeAddress registry (ns ++ "/" ++ id)) with
      | error failure =>
        rw [hchanged] at hstep
        rw [Stages.step_of_error htarget hvalid (by rw [hstage]; exact hstep)]
        simp [hchanged, settle, Except.map]
      | ok changed =>
        rw [hchanged] at hstep
        rw [Stages.step_of_ok htarget hvalid (by rw [hstage]; exact hstep), ← stages_insert hkey]
        simp [hchanged, settle, Except.map]

/-- A call that reads a machine, and sees no more than its stage, is the call on the stages. -/
theorem step_find {α : Type} (read : Registered → Except Failure α) (observe : α → Observation)
    (h : registry.IsSound) (htarget : call.target? = some (ns, id))
    (habsent : Stage.step ns id call .absent = .error (notFound id ns))
    (hread : ∀ registered : Registered, registered.IsCoherent →
      Stage.step ns id call registered.stage =
        (read registered).map fun value => (observe value, registered.stage)) :
    (Stages.step call).run registry.stages =
      (((registry.find id ns).bind read).map observe, registry.stages) := by
  cases hvalid : DnsLabel.validate id with
  | error failure =>
    rw [Stages.step_of_invalid htarget hvalid]
    simp [find, key_of_invalid hvalid, bind, Except.bind, Except.map]
  | ok =>
    have hkey := key_of_valid ns hvalid
    have hstage := registry.stages_eq hkey
    rw [find_eq hkey]
    cases hget : Fields.get? registry (ns ++ "/" ++ id) with
    | none =>
      rw [hget] at hstage
      rw [Stages.step_of_error htarget hvalid (by rw [hstage]; exact habsent)]
      rfl
    | some registered =>
      rw [hget] at hstage
      have hstep := hread registered (h.machines _ _ hget)
      cases hvalue : read registered with
      | error failure =>
        rw [hvalue] at hstep
        rw [Stages.step_of_error htarget hvalid (by rw [hstage]; exact hstep)]
        simp [hvalue, Except.bind, Except.map]
      | ok value =>
        rw [hvalue] at hstep
        rw [Stages.step_of_ok htarget hvalid (by rw [hstage]; exact hstep)]
        -- A machine that is only read stays in its stage.
        have hsame : Function.update registry.stages (ns, id) registered.stage =
            registry.stages := by
          rw [show registered.stage = registry.stages (ns, id) from hstage.symm,
            Function.update_eq_self]
        simp [hvalue, hsame, Except.bind, Except.map]

theorem step_create (machine : Machine) (datacenter : Datacenter) (template : Template)
    (base : Option Json) (now : String) :
    (Stages.step (.create machine datacenter template base)).run registry.stages =
      ((registry.settle (registry.create machine datacenter template.id now)).1.map fun _ => .done,
        (registry.settle (registry.create machine datacenter template.id now)).2.stages) := by
  cases hvalid : DnsLabel.validate machine.id with
  | error failure =>
    rw [Stages.step_of_invalid rfl hvalid]
    simp [create, key_of_invalid hvalid, settle, bind, Except.bind, Except.map]
  | ok =>
    have hkey := key_of_valid datacenter.workloadNamespace hvalid
    have hstage := registry.stages_eq hkey
    rw [create_eq hkey]
    cases hget : Fields.get? registry (datacenter.workloadNamespace ++ "/" ++ machine.id) with
    | none =>
      rw [hget] at hstage
      rw [Stages.step_of_ok rfl hvalid (by rw [hstage]; rfl)]
      simp only [settle, Except.map]
      rw [stages_insert hkey]
      rfl
    | some registered =>
      rw [hget] at hstage
      rw [Stages.step_of_error rfl hvalid (by
        rw [hstage]
        simp only [Option.map_some, Option.getD_some, Registered.stage]
        split <;> rfl)]
      rfl

theorem step_delete (h : registry.IsSound) (id ns : String) :
    (Stages.step (.delete id ns)).run registry.stages =
      ((registry.settle (registry.delete id ns)).1.map fun _ => .done,
        (registry.settle (registry.delete id ns)).2.stages) := by
  cases hvalid : DnsLabel.validate id with
  | error failure =>
    rw [Stages.step_of_invalid rfl hvalid]
    simp [delete, key_of_invalid hvalid, settle, bind, Except.bind, Except.map]
  | ok =>
    have hkey := key_of_valid ns hvalid
    have hstage := registry.stages_eq hkey
    rw [delete_eq hkey]
    cases hget : Fields.get? registry (ns ++ "/" ++ id) with
    | none =>
      rw [hget] at hstage
      rw [Stages.step_of_error rfl hvalid (by rw [hstage]; rfl)]
      rfl
    | some registered =>
      rw [hget] at hstage
      rw [Stages.step_of_ok rfl hvalid (by
        rw [hstage]
        simp only [Option.map_some, Option.getD_some, Registered.stage]
        split <;> rfl)]
      simp only [settle, Except.map]
      rw [stages_erase h.isOrdered hkey]

/-- What is seen of a machine is its stage. -/
theorem stage_cases (h : registered.IsCoherent) :
    registered.stage = .running ∧ registered.isRunning = true ∧ registered.phase = .running ∧
        registered.ipAddress.isSome = true ∨
      registered.stage = .stopped ∧ registered.isRunning = false ∧ registered.phase = .stopped ∧
        registered.ipAddress = none := by
  rcases h.phase with hphase | hphase
  · have hrunning : registered.isRunning = false := by simp [Registered.isRunning, hphase]
    refine .inr ⟨Registered.stage_of_not_isRunning hrunning, hrunning, hphase, ?_⟩
    rw [← Option.not_isSome_iff_eq_none, h.hasAddress, hphase]
    exact Phase.noConfusion
  · have hrunning : registered.isRunning = true := by simp [Registered.isRunning, hphase]
    exact .inl ⟨Registered.stage_of_isRunning hrunning, hrunning, hphase, h.hasAddress.mpr hphase⟩

/-- **Every call on the registry** is the call on the stages of its machines. -/
theorem step_answer (h : registry.IsSound) (now : String) (call : Call) :
    (Stages.step call).run registry.stages =
      (call.observe ((answer now call).run registry).1,
        ((answer now call).run registry).2.stages) := by
  cases call with
  | create machine datacenter template base => exact step_create _ _ _ _ now
  | start id ns =>
    refine step_update rfl rfl fun registered address => ?_
    cases hrunning : registered.isRunning with
    | false => rw [Registered.stage_of_not_isRunning hrunning]; rfl
    | true => rw [Registered.stage_of_isRunning hrunning]; rfl
  | stop id ns =>
    refine step_update rfl rfl fun registered address => ?_
    cases hrunning : registered.isRunning with
    | false => rw [Registered.stage_of_not_isRunning hrunning]; rfl
    | true => rw [Registered.stage_of_isRunning hrunning]; rfl
  | restart id ns =>
    refine step_update rfl rfl fun registered address => ?_
    cases hrunning : registered.isRunning with
    | false => rw [Registered.stage_of_not_isRunning hrunning]; rfl
    -- another address is no other stage
    | true =>
      have hstage : (registered.readdress address).stage = .running :=
        Registered.stage_of_isRunning hrunning
      rw [Registered.stage_of_isRunning hrunning, if_pos rfl, Except.map, hstage]
      rfl
  | delete id ns => exact step_delete h id ns
  | status id ns =>
    refine (step_find (fun registered => .ok registered.status)
      (fun status => .status status.phase status.ready status.ipAddress.isSome)
      h rfl rfl fun registered hregistered => ?_).trans ?_
    · rcases stage_cases hregistered with
        ⟨hstage, hrunning, hphase, haddress⟩ | ⟨hstage, hrunning, hphase, haddress⟩
      · simp [hstage, Stage.step, Registered.status, hrunning, hphase, haddress, Except.map]
      · simp [hstage, Stage.step, Registered.status, hrunning, hphase, haddress, Except.map]
    · rfl
  | ipAddress id ns =>
    refine (step_find _ (fun _ => .done) h rfl rfl fun registered hregistered => ?_).trans rfl
    rcases stage_cases hregistered with ⟨hstage, -, -, haddress⟩ | ⟨hstage, -, -, haddress⟩
    · obtain ⟨address, haddress⟩ := Option.isSome_iff_exists.mp haddress
      rw [hstage, haddress]
      rfl
    · rw [hstage, haddress]
      rfl
  | consoleUrl id ns =>
    refine (step_find (fun _ => .ok (consoleBase ++ "/" ++ ns ++ "/" ++ id)) (fun _ => .done)
      h rfl rfl fun registered hregistered => ?_).trans ?_
    · cases hrunning : registered.isRunning with
      | false => rw [Registered.stage_of_not_isRunning hrunning]; rfl
      | true => rw [Registered.stage_of_isRunning hrunning]; rfl
    · rfl
  | check => rfl

/-- **The registry simulates the stages of its machines**, whatever the times of the calls. -/
theorem simulates_stages :
    Simulates (fun entry : String × Call => entry.2.observed (answer entry.1))
      (fun entry => Stages.step entry.2) (fun _ => True)
      fun registry stages => registry.IsSound ∧ registry.stages = stages := by
  rintro ⟨now, call⟩ - registry stages ⟨h, rfl⟩
  rw [step_answer h now call]
  exact ⟨rfl, h.change (answer_change now call registry), rfl⟩

end Registry

end VmProvisioning
