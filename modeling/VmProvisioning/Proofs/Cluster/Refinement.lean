import VmProvisioning.Proofs.Cluster.Operations
import VmProvisioning.Proofs.Lifecycle

/-!
# A cluster as stages of machines

The desired run state of a machine object is its stage. On a cluster that holds nothing but
machines, every call is the call on the stages of the machines.

## Main definitions

* `Store.stages`: the stages of the machines in a store
* `Call.IsProper`: calls in namespaces that are labels, with bases that can be read
* `Platform.reply`: the cluster as a backend with a state

## Main results

* `follows_reply`: every proper call is the call on the stages
* `simulates_stages`: the cluster simulates the stages of machines
-/

namespace VmProvisioning

open Api DnsLabel Cluster

/-! ## Stages -/

/-- The stage of a machine object. -/
def Stage.ofObject (object : Json) : Stage :=
  if Definition.wantsRunning object then .running else .stopped

theorem Stage.ofObject_of_running {object : Json} (h : Definition.wantsRunning object = true) :
    ofObject object = .running := by
  rw [ofObject, if_pos h]

theorem Stage.ofObject_of_stopped {object : Json} (h : Definition.wantsRunning object = false) :
    ofObject object = .stopped := by
  rw [ofObject, h]
  rfl

namespace Store

variable {store changed : Store} {id ns : String} {object : Json}

/-- **The stages of the machines in a store.** -/
def stages (store : Store) : Stages := fun (ns, id) =>
  match validate id with
  | .ok () => ((store.kept (machineAt ns id)).map Stage.ofObject).getD .absent
  | .error _ => .absent

theorem stages_eq (hvalid : validate id = .ok ()) :
    store.stages (ns, id) = ((store.kept (machineAt ns id)).map Stage.ofObject).getD .absent := by
  rw [stages, hvalid]

theorem stages_of_kept (hvalid : validate id = .ok ())
    (hkept : store.kept (machineAt ns id) = some object) :
    store.stages (ns, id) = .ofObject object := by
  rw [stages_eq hvalid, hkept]
  rfl

theorem stages_congr (h : changed.kept = store.kept) : changed.stages = store.stages := by
  funext ⟨ns, id⟩
  simp only [stages, h]

theorem machineAt_inj {ns' id' : String} (h : machineAt ns' id' = machineAt ns id) :
    (ns', id') = (ns, id) := by
  simpa [Resource.place] using h

/-- Stores that differ at one machine only have the same stages but for that machine. -/
theorem stages_eq_update {stage : Stage} (hvalid : validate id = .ok ())
    (hkept : ((changed.kept (machineAt ns id)).map Stage.ofObject).getD .absent = stage)
    (hothers : ∀ other, other ≠ machineAt ns id → changed.kept other = store.kept other) :
    changed.stages = Function.update store.stages (ns, id) stage := by
  funext ⟨ns', id'⟩
  by_cases heq : (ns', id') = (ns, id)
  · rw [heq, Function.update_self, stages_eq hvalid, hkept]
  · rw [Function.update_of_ne heq, stages, stages, hothers _ fun h => heq (machineAt_inj h)]

theorem stages_put (hvalid : validate id = .ok ()) :
    (store.put (machineAt ns id) object).stages =
      Function.update store.stages (ns, id) (.ofObject object) :=
  stages_eq_update hvalid (by simp [kept_put]) fun other hne => by rw [kept_put, if_neg hne]

theorem stages_remove (hvalid : validate id = .ok ()) :
    (store.remove (machineAt ns id)).stages = Function.update store.stages (ns, id) .absent :=
  stages_eq_update hvalid (by simp [kept_remove]) fun other hne => by rw [kept_remove, if_neg hne]

end Store

/-! ## Calls -/

/-- **A proper call**: its namespace is a label, and a base for a machine object can be read. -/
structure Call.IsProper (call : Call) : Prop where
  isLabelText : ∀ ns id, call.target? = some (ns, id) → IsLabelText ns
  isReadable : ∀ members, call.base? = some (.object members) → IsReadable (.object members)

/-- **The cluster as a backend** with a state. -/
def Platform.reply (platform : Platform) (settings : ClusterSettings) (call : Call) :
    StateM Store call.Reply :=
  (Cluster.answer settings call).run platform.answer

/-- An outcome is that of a call on the stages of the machines in a store. -/
structure Follows (store : Store) (call : Call) (outcome : Except Failure Observation × Store) :
    Prop where
  step : (Stages.step call).run store.stages = (outcome.1, outcome.2.stages)
  holds : outcome.2.HoldsMachines

namespace Follows

variable {store changed : Store} {call : Call} {id ns : String} {failure : Failure}
  {observed : Except Failure Observation}
  (hstore : store.HoldsMachines) (htarget : call.target? = some (ns, id))

include hstore htarget

theorem of_invalid (hvalid : validate id = .error failure) :
    Follows store call (.error failure, store) where
  step := Stages.step_of_invalid htarget hvalid
  holds := hstore

variable (hvalid : validate id = .ok ())

include hvalid

theorem of_error (hstep : Stage.step ns id call (store.stages (ns, id)) = .error failure)
    (hkept : changed.kept = store.kept) : Follows store call (.error failure, changed) where
  step := by rw [Stages.step_of_error htarget hvalid hstep, Store.stages_congr hkept]
  holds := hstore.congr hkept

theorem of_ok {observation : Observation}
    (hstep : Stage.step ns id call (store.stages (ns, id)) =
      .ok (observation, store.stages (ns, id)))
    (hkept : changed.kept = store.kept) : Follows store call (.ok observation, changed) where
  step := by
    rw [Stages.step_of_ok htarget hvalid hstep, Store.stages_congr hkept, Function.update_eq_self]
  holds := hstore.congr hkept

theorem of_put {object : Json} (hreadable : IsReadable object)
    (hstep : Stage.step ns id call (store.stages (ns, id)) = .ok (.done, .ofObject object))
    (hkept : changed.kept = (store.put (machineAt ns id) object).kept) :
    Follows store call (.ok .done, changed) where
  step := by
    rw [Stages.step_of_ok htarget hvalid hstep, Store.stages_congr hkept, Store.stages_put hvalid]
  holds := (hstore.put (isOf_machineAt ns id) hreadable).congr hkept

theorem of_remove (hstep : Stage.step ns id call (store.stages (ns, id)) = .ok (.done, .absent))
    (hkept : changed.kept = (store.remove (machineAt ns id)).kept) :
    Follows store call (.ok .done, changed) where
  step := by
    rw [Stages.step_of_ok htarget hvalid hstep, Store.stages_congr hkept,
      Store.stages_remove hvalid]
  holds := hstore.remove.congr hkept

end Follows

/-! ## The cluster as a backend -/

namespace Cluster

variable {platform : Platform} {settings : ClusterSettings} {store changed : Store}
  {id ns : String}

/-- What is observed of an operation that is carried out on a store. -/
def outcome (platform : Platform) (store : Store) (call : Call) (operation : Action call.Result) :
    Except Failure Observation × Store :=
  let (reply, changed) := (operation.exec platform.answer).run store
  (call.observe reply, changed)

section Requests

variable (hplatform : platform.RunsMachines) (hns : IsLabelText ns)

include hplatform hns

/-- **A call that looks at its machine first** follows the stages when it does so from there. -/
theorem follows_of_getMachine (hstore : store.HoldsMachines) {call : Call}
    {body : Json → Action call.Result} (htarget : call.target? = some (ns, id))
    (habsent : Stage.step ns id call .absent = .error (.notFound Kind.machine ns id))
    (hobserve : ∀ failure, call.observe (.error failure) = .error failure)
    (hbody : ∀ object seen, validate id = .ok () → store.kept (machineAt ns id) = some object →
      IsSeen object seen → Follows store call (outcome platform store.tick call (body seen))) :
    Follows store call (outcome platform store call
      (Operation.ofExcept (validate id) >>= fun _ => getMachine settings id ns >>= body)) := by
  cases hvalid : validate id with
  | error failure =>
    -- no request is made
    rw [outcome, Operation.ofExcept_error_bind, Operation.exec_throw]
    simp only [hobserve]
    exact .of_invalid hstore htarget hvalid
  | ok =>
    have hid := isLabelText_of_validate hvalid
    cases hkept : store.kept (machineAt ns id) with
    | none =>
      -- the first request ends the call
      rw [outcome, Operation.ofExcept_ok_bind,
        Operation.exec_bind_error (exec_getMachine_of_none hplatform hid hns hkept)]
      simp only [hobserve]
      exact .of_error hstore htarget hvalid (by rw [Store.stages_eq hvalid, hkept]; exact habsent)
        rfl
    | some object =>
      -- the first request shows the machine, and the call goes on
      obtain ⟨seen, hseen, hsees⟩ :=
        exists_seen hplatform store.moment (hstore.isReadable _ _ hkept)
      rw [outcome, Operation.ofExcept_ok_bind,
        Operation.exec_bind_ok (exec_getMachine_of_some hplatform hid hns hkept hseen)]
      exact hbody object seen hvalid hkept hsees

/-- A machine that has been seen gets another desired run state. -/
theorem follows_patchRunning (settings : ClusterSettings) {call : Call} {object seen : Json}
    (isRunning : Bool) (hstore : store.HoldsMachines) (htarget : call.target? = some (ns, id))
    (hvalid : validate id = .ok ()) (hkept : store.kept (machineAt ns id) = some object)
    (hseen : IsSeen object seen)
    (hstep : Stage.step ns id call (.ofObject object) =
      .ok (.done, if isRunning then .running else .stopped)) :
    ∃ changed, ((patchRunning settings id ns seen isRunning).exec platform.answer).run store.tick =
      (.ok (), changed) ∧ Follows store call (.ok .done, changed) := by
  have hreadable := hstore.isReadable _ _ hkept
  have htick : store.tick.kept (machineAt ns id) = some object := hkept
  refine ⟨_, exec_patchRunning hplatform (isLabelText_of_validate hvalid) hns htick hreadable hseen
    isRunning, ?_⟩
  refine .of_put hstore htarget hvalid
    (Definition.isReadable_merge_runPatch hreadable isRunning) ?_ rfl
  rw [Store.stages_of_kept hvalid hkept, hstep, Stage.ofObject,
    Definition.wantsRunning_merge_runPatch]

theorem follows_start (hstore : store.HoldsMachines) :
    Follows store (.start id ns) (outcome platform store (.start id ns)
      (start settings id ns)) := by
  refine follows_of_getMachine hplatform hns hstore rfl rfl (fun _ => rfl)
    fun object seen hvalid hkept hseen => ?_
  rw [hseen.wantsRunning]
  cases hrunning : Definition.wantsRunning object with
  | true =>
    refine .of_error hstore rfl hvalid ?_ rfl
    rw [Store.stages_of_kept hvalid hkept, Stage.ofObject_of_running hrunning]
    rfl
  | false =>
    have hstep : Stage.step ns id (.start id ns) (.ofObject object) = .ok (.done, .running) := by
      rw [Stage.ofObject_of_stopped hrunning]
      rfl
    obtain ⟨changed, hrun, hfollows⟩ :=
      follows_patchRunning hplatform hns settings true hstore rfl hvalid hkept hseen hstep
    simp only [outcome, Bool.false_eq_true, if_false, hrun]
    exact hfollows

theorem follows_stop (hstore : store.HoldsMachines) :
    Follows store (.stop id ns) (outcome platform store (.stop id ns) (stop settings id ns)) := by
  refine follows_of_getMachine hplatform hns hstore rfl rfl (fun _ => rfl)
    fun object seen hvalid hkept hseen => ?_
  rw [hseen.wantsRunning]
  cases hrunning : Definition.wantsRunning object with
  | true =>
    have hstep : Stage.step ns id (.stop id ns) (.ofObject object) = .ok (.done, .stopped) := by
      rw [Stage.ofObject_of_running hrunning]
      rfl
    obtain ⟨changed, hrun, hfollows⟩ :=
      follows_patchRunning hplatform hns settings false hstore rfl hvalid hkept hseen hstep
    simp only [outcome, Bool.not_true, Bool.false_eq_true, if_false, hrun]
    exact hfollows
  | false =>
    refine .of_error hstore rfl hvalid ?_ rfl
    rw [Store.stages_of_kept hvalid hkept, Stage.ofObject_of_stopped hrunning]
    rfl

theorem follows_consoleUrl (hstore : store.HoldsMachines) :
    Follows store (.consoleUrl id ns) (outcome platform store (.consoleUrl id ns)
      (consoleUrl settings id ns)) := by
  refine follows_of_getMachine hplatform hns hstore rfl rfl (fun _ => rfl)
    fun object seen hvalid hkept hseen => ?_
  refine .of_ok hstore rfl hvalid ?_ rfl
  rw [Store.stages_of_kept hvalid hkept, Stage.ofObject]
  split <;> rfl

/-- A machine that is to run has an instance, which is made anew when it is deleted. -/
theorem follows_restart (hstore : store.HoldsMachines) :
    Follows store (.restart id ns) (outcome platform store (.restart id ns)
      (restart settings id ns)) := by
  refine follows_of_getMachine hplatform hns hstore rfl rfl (fun _ => rfl)
    fun object seen hvalid hkept hseen => ?_
  have hid := isLabelText_of_validate hvalid
  rw [hseen.wantsRunning]
  cases hrunning : Definition.wantsRunning object with
  | false =>
    refine .of_error hstore rfl hvalid ?_ rfl
    rw [Store.stages_of_kept hvalid hkept, Stage.ofObject_of_stopped hrunning]
    rfl
  | true =>
    -- The instance is there, so that it can be deleted ...
    obtain ⟨inst, -, hinst⟩ := exec_getInstance_of_running hplatform hid hns settings
      hstore.tick hkept hrunning
    obtain ⟨changed, hchanged, hdeleted⟩ := exec_deleteInstance hplatform hid hns
      hstore.tick.tick hkept hrunning
      (concern settings "delete VirtualMachineInstance" instances ns id) fun trouble =>
        if trouble.isNotFound then some (.error (.conflictFor .notRunning ns id)) else none
    simp only [outcome, Bool.not_true, Bool.false_eq_true, if_false]
    rw [Operation.exec_bind_ok hinst]
    simp only [Option.isNone_some, Bool.false_eq_true, if_false, hdeleted]
    -- ... and as the machine object is the same, its stage is too.
    refine .of_ok hstore rfl hvalid ?_ hchanged
    rw [Store.stages_of_kept hvalid hkept, Stage.ofObject_of_running hrunning]
    rfl

/-- What the status of a machine that has been seen shows is its stage. -/
theorem exec_status_of_seen (settings : ClusterSettings) {object seen : Json}
    (hstore : store.HoldsMachines) (hid : IsLabelText id)
    (hkept : store.kept (machineAt ns id) = some object) (hseen : IsSeen object seen) :
    ∃ status, ((getInstance settings id ns >>= fun inst? =>
        Operation.ofExcept (MachineStatus.ofObjects seen inst?)).exec platform.answer).run
          store.tick = (.ok status, store.tick.tick) ∧
      (Stage.ofObject object = .running ∧ status.phase = .running ∧ status.ready = true ∧
          status.ipAddress.isSome = true ∨
        Stage.ofObject object = .stopped ∧ status.phase = .stopped ∧ status.ready = false ∧
          status.ipAddress = none) := by
  cases hrunning : Definition.wantsRunning object with
  | true =>
    obtain ⟨inst, hinst, hget⟩ := exec_getInstance_of_running hplatform hid hns settings
      hstore.tick hkept hrunning
    obtain ⟨status, hstatus, hshows⟩ := ofObjects_running hplatform hseen hrunning hinst
    refine ⟨status, ?_, .inl ⟨Stage.ofObject_of_running hrunning, hshows⟩⟩
    rw [Operation.exec_bind_ok hget, hstatus, Operation.exec_ofExcept]
  | false =>
    obtain ⟨status, hstatus, hshows⟩ := ofObjects_stopped hseen hrunning
    refine ⟨status, ?_, .inr ⟨Stage.ofObject_of_stopped hrunning, hshows⟩⟩
    rw [Operation.exec_bind_ok (exec_getInstance_of_stopped hplatform hid hns hstore.tick hkept
      hrunning), hstatus, Operation.exec_ofExcept]

theorem follows_status (hstore : store.HoldsMachines) :
    Follows store (.status id ns) (outcome platform store (.status id ns)
      (status settings id ns)) := by
  refine follows_of_getMachine hplatform hns hstore rfl rfl (fun _ => rfl)
    fun object seen hvalid hkept hseen => ?_
  obtain ⟨status, hrun, hshows⟩ := exec_status_of_seen hplatform hns settings hstore
    (isLabelText_of_validate hvalid) hkept hseen
  rw [outcome, hrun]
  refine .of_ok hstore rfl hvalid ?_ rfl
  rw [Store.stages_of_kept hvalid hkept]
  rcases hshows with ⟨hstage, hphase, hready, haddress⟩ | ⟨hstage, hphase, hready, haddress⟩
  · simp [hstage, hphase, hready, haddress, Stage.step]
  · simp [hstage, hphase, hready, haddress, Stage.step]

theorem follows_ipAddress (hstore : store.HoldsMachines) :
    Follows store (.ipAddress id ns) (outcome platform store (.ipAddress id ns)
      (ipAddress settings id ns)) := by
  rw [ipAddress, status]
  -- The address is read off the status, so that the machine is looked at first here too.
  simp only [bind_assoc]
  refine follows_of_getMachine hplatform hns hstore rfl rfl (fun _ => rfl)
    fun object seen hvalid hkept hseen => ?_
  obtain ⟨status, hrun, hshows⟩ := exec_status_of_seen hplatform hns settings hstore
    (isLabelText_of_validate hvalid) hkept hseen
  rw [outcome, ← bind_assoc, Operation.exec_bind_ok hrun]
  rcases hshows with ⟨hstage, -, -, haddress⟩ | ⟨hstage, -, -, haddress⟩
  · obtain ⟨address, haddress⟩ := Option.isSome_iff_exists.mp haddress
    rw [haddress]
    refine .of_ok hstore rfl hvalid ?_ rfl
    rw [Store.stages_of_kept hvalid hkept, hstage]
    rfl
  · rw [haddress]
    refine .of_error hstore rfl hvalid ?_ rfl
    rw [Store.stages_of_kept hvalid hkept, hstage]
    rfl

theorem follows_delete (hstore : store.HoldsMachines) :
    Follows store (.delete id ns) (outcome platform store (.delete id ns)
      (delete settings id ns)) := by
  cases hvalid : validate id with
  | error failure =>
    rw [outcome, delete, hvalid, Operation.ofExcept_error_bind, Operation.exec_throw]
    exact .of_invalid hstore rfl hvalid
  | ok =>
    have hid := isLabelText_of_validate hvalid
    rw [outcome, delete, hvalid, Operation.ofExcept_ok_bind]
    cases hkept : store.kept (machineAt ns id) with
    | none =>
      rw [Operation.exec_bind_error (exec_deleteMachine_of_none hplatform hid hns hkept)]
      refine .of_error hstore rfl hvalid ?_ rfl
      rw [Store.stages_eq hvalid, hkept]
      rfl
    | some object =>
      -- The machine is deleted first, and then what was made for it.
      have hremoved : (store.remove (machineAt ns id)).tick.HoldsMachines := hstore.remove.tick
      obtain ⟨changed, hchanged, hrun⟩ := exec_sweep settings id hns hremoved
      rw [Operation.exec_bind_ok (exec_deleteMachine_of_some hplatform hid hns hkept), hrun]
      refine .of_remove hstore rfl hvalid ?_ hchanged
      rw [Store.stages_of_kept hvalid hkept, Stage.ofObject]
      split <;> rfl

end Requests

/-- A machine is created from any base that can be read. -/
theorem follows_create (hplatform : platform.RunsMachines) (hstore : store.HoldsMachines)
    {machine : Machine} {datacenter : Datacenter} {template : Template} {base : Option Json}
    (hproper : Call.IsProper (.create machine datacenter template base)) :
    Follows store (.create machine datacenter template base)
      (outcome platform store (.create machine datacenter template base)
        (create settings machine datacenter template base)) := by
  have hns : IsLabelText datacenter.workloadNamespace := hproper.isLabelText _ _ rfl
  cases hvalid : validate machine.id with
  | error failure =>
    rw [outcome, create, hvalid, Operation.ofExcept_error_bind, Operation.exec_throw]
    exact .of_invalid hstore rfl hvalid
  | ok =>
    -- The object that is sent is the normal form of a readable one.
    have hbase : IsReadable (Definition.ofBase machine datacenter template base) :=
      Definition.isReadable_ofBase hproper.isReadable
    obtain ⟨object, hobject⟩ := Option.isSome_iff_exists.mp hbase
    have hname := name_object? hobject (Definition.name_ofBase base)
    rw [outcome, create, hvalid, Operation.ofExcept_ok_bind]
    simp only [hobject]
    cases hkept : store.kept (machineAt datacenter.workloadNamespace machine.id) with
    | none =>
      rw [exec_createMachine_of_none hplatform hns hname (isReadable_object? hobject) hkept]
      refine .of_put hstore rfl hvalid (isReadable_object? hobject) ?_ rfl
      -- Whatever the base wants, the machine is made halted.
      have hstopped : Definition.wantsRunning object = false := by
        rw [Definition.wantsRunning_object? hobject, Definition.wantsRunning_ofBase]
      rw [Store.stages_eq hvalid, hkept, Stage.ofObject_of_stopped hstopped]
      rfl
    | some other =>
      obtain ⟨message, hrun⟩ := exec_createMachine_of_some hplatform hns hname hkept
      rw [hrun]
      refine .of_error hstore rfl hvalid ?_ rfl
      rw [Store.stages_of_kept hvalid hkept, Stage.ofObject]
      split <;> rfl

theorem follows_check (hstore : store.HoldsMachines) :
    Follows store .check (outcome platform store .check (check settings)) := by
  rw [outcome, check, exec_exchangeOr _ _ rfl]
  exact ⟨rfl, hstore.tick⟩

/-- **Every proper call on a cluster** is the call on the stages of its machines. -/
theorem follows_reply (hplatform : platform.RunsMachines) (hstore : store.HoldsMachines)
    {call : Call} (hproper : call.IsProper) :
    Follows store call ((call.observed (platform.reply settings)).run store) := by
  have hns := hproper.isLabelText
  cases call with
  | create machine datacenter template base => exact follows_create hplatform hstore hproper
  | start id ns => exact follows_start hplatform (hns _ _ rfl) hstore
  | stop id ns => exact follows_stop hplatform (hns _ _ rfl) hstore
  | restart id ns => exact follows_restart hplatform (hns _ _ rfl) hstore
  | delete id ns => exact follows_delete hplatform (hns _ _ rfl) hstore
  | status id ns => exact follows_status hplatform (hns _ _ rfl) hstore
  | ipAddress id ns => exact follows_ipAddress hplatform (hns _ _ rfl) hstore
  | consoleUrl id ns => exact follows_consoleUrl hplatform (hns _ _ rfl) hstore
  | check => exact follows_check hstore

/-- **The cluster simulates the stages of its machines** on proper calls, whatever their times. -/
theorem simulates_stages (hplatform : platform.RunsMachines) (settings : ClusterSettings) :
    Simulates (fun entry : String × Call => entry.2.observed (platform.reply settings))
      (fun entry => Stages.step entry.2) (fun entry => entry.2.IsProper)
      fun store stages => store.HoldsMachines ∧ store.stages = stages := by
  rintro ⟨now, call⟩ hproper store stages ⟨hstore, rfl⟩
  obtain ⟨hstep, hholds⟩ := follows_reply hplatform hstore hproper
  rw [hstep]
  exact ⟨rfl, hholds, rfl⟩

end Cluster

end VmProvisioning
