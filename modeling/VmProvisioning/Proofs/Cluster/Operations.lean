import VmProvisioning.Proofs.Cluster.Store

/-!
# Operations on a cluster that only has machines

What every request of the operations gives and leaves behind, when the cluster is a store that
holds nothing but readable machine objects.

## Main definitions

* `Store.HoldsMachines`: only readable machine objects are kept
* `IsSeen`: what the operations see of a machine object

## Main results

* `advances_getMachine`, `advances_patchRunning`: the requests of calls that look at a machine
* `exec_getMachine`, `exec_getInstance`, `exec_patchRunning`: the requests that operations share
* `exec_sweep`: nothing else was made for a machine
-/

namespace VmProvisioning

open Api DnsLabel Interaction

/-- **Only readable machine objects are kept.** -/
structure Store.HoldsMachines (store : Store) : Prop where
  isMachine : ∀ location object, store.kept location = some object →
    location.isOf Cluster.machines = true
  isReadable : ∀ location object, store.kept location = some object → IsReadable object

namespace Store.HoldsMachines

variable {store : Store} {location : Location} {object : Json}

theorem empty : Store.empty.HoldsMachines where
  isMachine _ _ h := by simp at h
  isReadable _ _ h := by simp at h

theorem congr {changed : Store} (h : store.HoldsMachines) (hkept : changed.kept = store.kept) :
    changed.HoldsMachines where
  isMachine := hkept ▸ h.isMachine
  isReadable := hkept ▸ h.isReadable

theorem tick (h : store.HoldsMachines) : store.tick.HoldsMachines :=
  h.congr rfl

theorem put (h : store.HoldsMachines) (hmachine : location.isOf Cluster.machines = true)
    (hobject : IsReadable object) : (store.put location object).HoldsMachines where
  isMachine other found hfound := by
    rcases eq_or_kept_of_kept_put hfound with ⟨rfl, -⟩ | hkept
    · exact hmachine
    · exact h.isMachine other found hkept
  isReadable other found hfound := by
    rcases eq_or_kept_of_kept_put hfound with ⟨-, rfl⟩ | hkept
    · exact hobject
    · exact h.isReadable other found hkept

theorem remove (h : store.HoldsMachines) : (store.remove location).HoldsMachines where
  isMachine other found hfound := h.isMachine other found (kept_of_kept_remove hfound)
  isReadable other found hfound := h.isReadable other found (kept_of_kept_remove hfound)

/-- Other objects are neither kept nor shown. -/
theorem kept_eq_none (h : store.HoldsMachines) (hmachine : location.isOf Cluster.machines = false) :
    store.kept location = none := by
  cases hkept : store.kept location with
  | none => rfl
  | some object => exact absurd (h.isMachine _ _ hkept) (by simp [hmachine])

end Store.HoldsMachines

/-! ## Machine objects as they are seen -/

/-- **What the operations see of a machine object** that the cluster keeps. -/
structure IsSeen (object seen : Json) : Prop where
  isObject : seen.isObject = true
  wantsRunning : Definition.wantsRunning seen = Definition.wantsRunning object
  runPatch : Definition.runPatch seen = Definition.runPatch object
  ready : seen.boolAt? ["status", "ready"] = some (Definition.wantsRunning object)

/-- Every readable machine object can be seen. -/
theorem exists_seen {platform : Platform} (hplatform : platform.RunsMachines) (moment : Nat)
    {object : Json} (h : IsReadable object) :
    ∃ seen, object? (platform.showMachine moment object) = some seen ∧ IsSeen object seen := by
  obtain ⟨seen, hseen⟩ :=
    Option.isSome_iff_exists.mp (hplatform.isReadable_showMachine moment object h)
  -- The normal form only touches the type and the metadata.
  have hspec : ∀ path, seen.at? ("spec" :: path) =
      (platform.showMachine moment object).at? ("spec" :: path) := fun path =>
    at?_object? hseen (by decide) (by decide) (by decide)
  have hstrategy := (hspec _).trans (hplatform.runStrategy moment object)
  have hrunning := (hspec _).trans (hplatform.running moment object)
  refine ⟨seen, hseen, isObject_object? hseen, Definition.wantsRunning_congr hstrategy hrunning,
    ?_, ?_⟩
  · funext isRunning
    simp only [Definition.runPatch, Definition.runStrategy?_congr hstrategy]
  · rw [Json.boolAt?, at?_object? hseen (by decide) (by decide) (by decide)]
    exact hplatform.ready moment object

namespace Cluster

/-! ## Resources -/

theorem machines_path : (machines.collectionPath "").toList.any Request.isForbidden = false := by
  decide +kernel

theorem instances_path : (instances.collectionPath "").toList.any Request.isForbidden = false := by
  decide +kernel

theorem ownedKinds_path : ∀ resource ∈ ownedKinds,
    (resource.collectionPath "").toList.any Request.isForbidden = false := by
  decide +kernel

/-- The kinds that are deleted with a machine are neither machines nor instances. -/
theorem isOf_eq_false_of_mem_ownedKinds {resource : Resource} (h : resource ∈ ownedKinds)
    {location : Location} (hlocation : location.plural = resource.plural) :
    location.isOf machines = false ∧ location.isOf instances = false := by
  have hplural : ∀ resource ∈ ownedKinds, resource.plural ≠ machines.plural ∧
      resource.plural ≠ instances.plural := by
    decide +kernel
  obtain ⟨hmachines, hinstances⟩ := hplural resource h
  simp [Location.isOf, hlocation, hmachines, hinstances]

/-! ## Requests -/

/-- Where a machine object is kept. -/
abbrev machineAt (ns id : String) : Location :=
  machines.place ns id

/-- Where an instance is shown. -/
abbrev instanceAt (ns id : String) : Location :=
  instances.place ns id

theorem isOf_machineAt (ns id : String) : (machineAt ns id).isOf machines = true := by
  simp [Location.isOf, Resource.place]

theorem isOf_instances_machineAt (ns id : String) :
    (machineAt ns id).isOf instances = false := by
  have hplural : machines.plural ≠ instances.plural := by decide +kernel
  simp [Location.isOf, Resource.place, hplural]

theorem isOf_instanceAt (ns id : String) : (instanceAt ns id).isOf instances = true := by
  simp [Location.isOf, Resource.place]

theorem isOf_machines_instanceAt (ns id : String) :
    (instanceAt ns id).isOf machines = false := by
  have hplural : instances.plural ≠ machines.plural := by decide +kernel
  simp [Location.isOf, Resource.place, hplural]

variable {platform : Platform} {settings : ClusterSettings} {store : Store} {id ns : String}
  {object seen : Json}

/-- A request on a resource that the cluster has. -/
theorem exec_request {α : Type} {concern : Concern} {request : Request} {read : Json → Option α}
    {recover : Trouble → Option (Except Failure α)} {resource : Resource}
    (hsendable : request.isSendable = true) (hresource : request.resource? = some resource)
    (hserves : platform.serves resource = true) :
    ((exchangeOr concern request read recover).exec platform.answer).run store =
      (settle concern recover ((platform.serve store request).1.read read),
        (platform.serve store request).2.tick) := by
  rw [exec_exchangeOr _ _ hsendable, Platform.answer_of_serves hresource hserves]

/-- A request on a resource that the cluster does not have. -/
theorem exec_request_of_not_serves {α : Type} {concern : Concern} {request : Request}
    {read : Json → Option α} {recover : Trouble → Option (Except Failure α)} {resource : Resource}
    (hsendable : request.isSendable = true) (hresource : request.resource? = some resource)
    (hserves : platform.serves resource = false) :
    ((exchangeOr concern request read recover).exec platform.answer).run store =
      (settle concern recover (Answer.unserved.read read), store.tick) := by
  rw [exec_exchangeOr _ _ hsendable, Platform.answer_of_not_serves hresource hserves]

theorem report_machine (code : Nat) (h : store.kept (machineAt ns id) = some object) :
    platform.report code store (machineAt ns id) =
      .answered code (.json (platform.showMachine store.moment object)) := by
  simp [Platform.report, Store.shown_of_kept h (isOf_machineAt ns id)]

theorem report_machine_of_none (code : Nat) (h : store.kept (machineAt ns id) = none) :
    platform.report code store (machineAt ns id) = .missing (machineAt ns id) := by
  simp [Platform.report, Store.shown_of_not_kept h (isOf_instances_machineAt ns id)]

theorem shown_instanceAt (hstore : store.HoldsMachines) :
    store.shown platform (instanceAt ns id) =
      ((store.kept (machineAt ns id)).filter Definition.wantsRunning).map
        (platform.makeInstance store.moment) := by
  rw [Store.shown, hstore.kept_eq_none (isOf_machines_instanceAt ns id)]
  simp only [Store.instanceAt, isOf_instanceAt, if_true]
  rfl

theorem getInstance_eq : getInstance settings id ns =
    exchangeOr (concern settings "get VirtualMachineInstance" instances ns id)
      (.get instances ns id) (fun value => (object? value).map some)
      fun trouble => if trouble.isAbsence then some (.ok none) else none := by
  rfl

section Sendable

variable (hplatform : platform.RunsMachines)
  (hsendable : (Request.get machines ns id).isSendable = true)

include hplatform hsendable

/-- A request for a machine object brings what the cluster reports of it. -/
theorem advances_getMachine (settings : ClusterSettings) (store : Store) :
    Advances platform.answer (getMachine settings id ns).run store
      (.done (settle (concern settings "get VirtualMachine" machines ns id) (fun _ => none)
        ((platform.report 200 store (machineAt ns id)).read object?))) store.tick := by
  have hanswer : (platform.answer (.get machines ns id)).run store =
      (platform.report 200 store (machineAt ns id), store.tick) :=
    Platform.answer_of_serves rfl hplatform.servesMachines
  rw [getMachine, exchangeFor]
  exact advances_exchangeOr hsendable hanswer

theorem advances_getMachine_of_none (h : store.kept (machineAt ns id) = none) :
    Advances platform.answer (getMachine settings id ns).run store
      (.done (.error (.notFound Kind.machine ns id))) store.tick := by
  have hask := advances_getMachine hplatform hsendable settings store
  rwa [report_machine_of_none 200 h, settle_missing] at hask

theorem advances_getMachine_of_some (h : store.kept (machineAt ns id) = some object)
    (hseen : object? (platform.showMachine store.moment object) = some seen) :
    Advances platform.answer (getMachine settings id ns).run store (.done (.ok seen))
      store.tick := by
  have hask := advances_getMachine hplatform hsendable settings store
  have hread : (platform.report 200 store (machineAt ns id)).read object? = .ok seen := by
    rw [report_machine 200 h]
    simp [Answer.read, Body.json?, hseen]
  rwa [hread] at hask

/-- **Changing the desired run state** of the machine object that is kept, provided that it is
written like the one that has been seen. -/
theorem advances_patchRunning (h : store.kept (machineAt ns id) = some object)
    (hreadable : IsReadable object)
    (hpatch : Definition.runPatch seen = Definition.runPatch object) (settings : ClusterSettings)
    (isRunning : Bool) :
    Advances platform.answer (patchRunning settings id ns seen isRunning).run store
      (.done (.ok ())) (store.put (machineAt ns id)
        (object.merge (Definition.runPatch object isRunning))).tick := by
  obtain ⟨changed, hchanged⟩ : ∃ changed,
      object.merge (Definition.runPatch object isRunning) = changed := ⟨_, rfl⟩
  have hshown : IsReadable changed :=
    hchanged ▸ Definition.isReadable_merge_runPatch hreadable isRunning
  obtain ⟨value, hvalue⟩ := Option.isSome_iff_exists.mp
    (hplatform.isReadable_showMachine store.moment changed hshown)
  have hanswer : (platform.answer
      (.merge machines ns id (Definition.runPatch object isRunning))).run store =
        (.answered 200 (.json (platform.showMachine store.moment changed)),
          (store.put (machineAt ns id) changed).tick) := by
    rw [Platform.answer_of_serves rfl hplatform.servesMachines]
    simp only [Platform.serve, h, hchanged]
    rw [report_machine 200 (by rw [Store.kept_put, if_pos rfl])]
    rfl
  have hsettle : settle (concern settings "patch VirtualMachine" machines ns id) (fun _ => none)
      ((Answer.answered 200 (.json (platform.showMachine store.moment changed))).read
        fun value => (object? value).map fun _ => ()) = .ok () := by
    simp [Answer.read, Body.json?, hvalue, settle]
  rw [patchRunning, hpatch, hchanged, exchangeFor, ← hsettle]
  exact advances_exchangeOr hsendable hanswer

end Sendable

section

variable (hplatform : platform.RunsMachines) (hid : IsLabelText id) (hns : IsLabelText ns)

include hplatform hid hns

/-- A machine that is not there is not found. -/
theorem exec_getMachine_of_none (h : store.kept (machineAt ns id) = none) :
    ((getMachine settings id ns).exec platform.answer).run store =
      (.error (.notFound Kind.machine ns id), store.tick) :=
  (advances_getMachine_of_none hplatform (isSendable_get machines_path hns hid.isSegment) h).run

/-- A machine that is there is seen. -/
theorem exec_getMachine_of_some (h : store.kept (machineAt ns id) = some object)
    (hseen : object? (platform.showMachine store.moment object) = some seen) :
    ((getMachine settings id ns).exec platform.answer).run store = (.ok seen, store.tick) :=
  (advances_getMachine_of_some hplatform (isSendable_get machines_path hns hid.isSegment) h
    hseen).run

/-- **Changing the desired run state** of a machine that has been seen. -/
theorem exec_patchRunning (h : store.kept (machineAt ns id) = some object)
    (hreadable : IsReadable object) (hseen : IsSeen object seen) (isRunning : Bool) :
    ((patchRunning settings id ns seen isRunning).exec platform.answer).run store =
      (.ok (), (store.put (machineAt ns id)
        (object.merge (Definition.runPatch object isRunning))).tick) :=
  (advances_patchRunning hplatform (isSendable_get machines_path hns hid.isSegment) h hreadable
    hseen.runPatch settings isRunning).run

/-- **The instance of a machine that is to run** is there. -/
theorem exec_getInstance_of_running (settings : ClusterSettings) (hstore : store.HoldsMachines)
    (h : store.kept (machineAt ns id) = some object)
    (hrunning : Definition.wantsRunning object = true) :
    ∃ inst, object? (platform.makeInstance store.moment object) = some inst ∧
      ((getInstance settings id ns).exec platform.answer).run store =
        (.ok (some inst), store.tick) := by
  obtain ⟨inst, hinst⟩ := Option.isSome_iff_exists.mp
    (hplatform.isReadable_makeInstance store.moment object hrunning)
  refine ⟨inst, hinst, ?_⟩
  rw [getInstance_eq,
    exec_request (isSendable_get instances_path hns hid.isSegment) rfl hplatform.servesInstances]
  simp only [Platform.serve, Platform.report]
  rw [shown_instanceAt hstore, h, Option.filter_some, if_pos hrunning]
  simp [Answer.read, Body.json?, hinst, settle]

/-- A machine that is not to run has no instance. -/
theorem exec_getInstance_of_stopped (hstore : store.HoldsMachines)
    (h : store.kept (machineAt ns id) = some object)
    (hrunning : Definition.wantsRunning object = false) :
    ((getInstance settings id ns).exec platform.answer).run store = (.ok none, store.tick) := by
  rw [getInstance_eq,
    exec_request (isSendable_get instances_path hns hid.isSegment) rfl hplatform.servesInstances]
  simp only [Platform.serve, Platform.report]
  rw [shown_instanceAt hstore, h, Option.filter_some, if_neg (by simp [hrunning])]
  simp only [Option.map_none]
  rw [Answer.missing, read_refuse (by decide) (by decide)]
  rfl

/-- The instance of a machine that is to run can be deleted, and is made anew. -/
theorem exec_deleteInstance (hstore : store.HoldsMachines)
    (h : store.kept (machineAt ns id) = some object)
    (hrunning : Definition.wantsRunning object = true) (concern : Concern)
    (recover : Trouble → Option (Except Failure Unit)) :
    ∃ changed : Store, changed.kept = store.kept ∧
      ((exchangeOr concern (.delete instances ns id false) (deletion? object?)
        recover).exec platform.answer).run store = (.ok (), changed) := by
  have hshown : store.shown platform (instanceAt ns id) =
      some (platform.makeInstance store.moment object) := by
    rw [shown_instanceAt hstore, h, Option.filter_some, if_pos hrunning, Option.map_some]
  refine ⟨(store.remove (instanceAt ns id)).tick, ?_, ?_⟩
  -- an instance is shown but not kept, so that nothing is removed
  · funext location
    rw [Store.kept_tick, Store.kept_remove]
    split
    · next heq => rw [heq, hstore.kept_eq_none (isOf_machines_instanceAt ns id)]
    · rfl
  · rw [exec_request (isSendable_delete instances_path hns hid.isSegment) rfl
      hplatform.servesInstances]
    simp only [Platform.serve, hshown, read_deleted]
    rfl

/-- A machine that is there is deleted. -/
theorem exec_deleteMachine_of_some (h : store.kept (machineAt ns id) = some object)
    {concern : Concern} :
    ((exchangeFor concern (.delete machines ns id true) (deletion? object?)).exec
      platform.answer).run store = (.ok (), (store.remove (machineAt ns id)).tick) := by
  rw [exchangeFor, exec_request (isSendable_delete machines_path hns hid.isSegment) rfl
    hplatform.servesMachines]
  simp only [Platform.serve, Store.shown_of_kept h (isOf_machineAt ns id), read_deleted]
  rfl

/-- A machine that is not there cannot be deleted. -/
theorem exec_deleteMachine_of_none (h : store.kept (machineAt ns id) = none) {concern : Concern} :
    ((exchangeFor concern (.delete machines ns id true) (deletion? object?)).exec
      platform.answer).run store =
        (.error (.notFound concern.kind concern.ns concern.name), store.tick) := by
  rw [exchangeFor, exec_request (isSendable_delete machines_path hns hid.isSegment) rfl
    hplatform.servesMachines]
  simp only [Platform.serve,
    Store.shown_of_not_kept h (isOf_instances_machineAt ns id), settle_missing]

end

/-! ## Status -/

/-- The status of a machine whose instance runs. -/
theorem ofObjects_running (hplatform : platform.RunsMachines) (hseen : IsSeen object seen)
    (hrunning : Definition.wantsRunning object = true) {moment : Nat} {inst : Json}
    (hinst : object? (platform.makeInstance moment object) = some inst) :
    ∃ status, MachineStatus.ofObjects seen (some inst) = .ok status ∧
      status.phase = .running ∧ status.ready = true ∧ status.ipAddress.isSome = true := by
  have hstatus : ∀ path, inst.at? ("status" :: path) =
      (platform.makeInstance moment object).at? ("status" :: path) := fun path =>
    at?_object? hinst (by decide) (by decide) (by decide)
  have hphase : inst.nonEmptyTextAt? ["status", "phase"] = some "Running" := by
    have htext : inst.textAt? ["status", "phase"] = some "Running" := by
      rw [Json.textAt?, hstatus]
      exact hplatform.isRunning moment object hrunning
    rw [Json.nonEmptyTextAt?, htext]
    rfl
  obtain ⟨interface, hmem, haddress⟩ := hplatform.hasAddress moment object hrunning
  have hinterfaces : interface ∈ inst.itemsAt ["status", "interfaces"] := by
    simpa only [Json.itemsAt, hstatus] using hmem
  refine ⟨_, by rw [MachineStatus.ofObjects, hseen.isObject]; rfl, ?_, ?_, ?_⟩
  · simp [Option.filter, isObject_object? hinst, Phase.ofInstance, hphase, Phase.ofName]
  · simp [hseen.ready, hrunning]
  · simp only [Option.filter, isObject_object? hinst, if_true, Option.map_some, Option.getD_some,
      List.find?_isSome, List.map_map]
    exact ⟨_, List.mem_map_of_mem hinterfaces, decide_eq_true haddress⟩

/-- The status of a machine without an instance. -/
theorem ofObjects_stopped (hseen : IsSeen object seen)
    (hrunning : Definition.wantsRunning object = false) :
    ∃ status, MachineStatus.ofObjects seen none = .ok status ∧
      status.phase = .stopped ∧ status.ready = false ∧ status.ipAddress = none := by
  refine ⟨_, by rw [MachineStatus.ofObjects, hseen.isObject]; rfl, rfl, ?_, rfl⟩
  simp [hseen.ready, hrunning]

/-! ## Creation -/

theorem isSendable_createMachine (hns : IsLabelText ns) :
    (Request.create machines ns object).isSendable = true := by
  rw [isSendable_create, any_isForbidden_collectionPath machines_path hns]
  rfl

section

variable (hplatform : platform.RunsMachines) (hns : IsLabelText ns)
  (hname : object.textAt? ["metadata", "name"] = some id)

include hplatform hns hname

/-- A machine that is not there is created. -/
theorem exec_createMachine_of_none (hreadable : IsReadable object)
    (h : store.kept (machineAt ns id) = none) {concern : Concern}
    {recover : Trouble → Option (Except Failure Unit)} :
    ((exchangeOr concern (.create machines ns object) (fun value => (object? value).map fun _ => ())
      recover).exec platform.answer).run store =
        (.ok (), (store.put (machineAt ns id) object).tick) := by
  obtain ⟨value, hvalue⟩ := Option.isSome_iff_exists.mp
    (hplatform.isReadable_showMachine store.moment _ hreadable)
  rw [exec_request (isSendable_createMachine hns) rfl hplatform.servesMachines]
  simp only [Platform.serve, hname,
    Store.shown_of_not_kept h (isOf_instances_machineAt ns id)]
  rw [report_machine 201 (by rw [Store.kept_put, if_pos rfl])]
  simp [Answer.read, Body.json?, hvalue, settle]

/-- A machine that is there already is not created again. -/
theorem exec_createMachine_of_some {other : Json}
    (h : store.kept (machineAt ns id) = some other) {concern : Concern}
    {recover : Trouble → Option (Except Failure Unit)} :
    ∃ message, ((exchangeOr concern (.create machines ns object)
      (fun value => (object? value).map fun _ => ()) recover).exec platform.answer).run store =
        (settle concern recover (.error (.refused ⟨"Failure", message, "AlreadyExists", 409⟩)),
          store.tick) := by
  rw [exec_request (isSendable_createMachine hns) rfl hplatform.servesMachines]
  simp only [Platform.serve, hname, Store.shown_of_kept h (isOf_machineAt ns id)]
  rw [read_refuse (by decide) (by decide)]
  exact ⟨_, rfl⟩

end

/-! ## What else is deleted with a machine -/

/-- Nothing of another kind was made for a machine. -/
theorem exec_ownedNames (hns : IsLabelText ns) (hstore : store.HoldsMachines) {resource : Resource}
    (hresource : resource ∈ ownedKinds) :
    ((ownedNames settings resource id ns).exec platform.answer).run store =
      (.ok [], store.tick) := by
  have hsendable : (Request.list resource ns (some (Ownership.selector id))).isSendable = true := by
    rw [isSendable_list, any_isForbidden_collectionPath (ownedKinds_path resource hresource) hns]
    rfl
  cases hserves : platform.serves resource with
  | true =>
    -- Only machines are kept, and only instances are shown besides.
    have hlisted : store.listed platform resource ns (some (Ownership.selector id)) = [] := by
      refine Store.listed_eq_nil fun location hlocation => ?_
      obtain ⟨-, hplural⟩ := Bool.and_eq_true_iff.mp hlocation
      obtain ⟨hmachine, hinstance⟩ :=
        isOf_eq_false_of_mem_ownedKinds hresource (beq_iff_eq.mp hplural)
      exact Store.shown_of_not_kept (hstore.kept_eq_none hmachine) hinstance
    rw [ownedNames, Operation.exec_bind, exec_request hsendable rfl hserves]
    simp only [Platform.serve]
    rw [hlisted, read_list_nil]
    rfl
  | false =>
    -- a kind that the cluster does not know counts as an empty list
    rw [ownedNames, Operation.exec_bind, exec_request_of_not_serves hsendable rfl hserves]
    rfl

theorem le_foldl_max {lengths : List Nat} {start : Nat} :
    start ≤ lengths.foldl max start ∧ ∀ length ∈ lengths, length ≤ lengths.foldl max start := by
  induction lengths generalizing start with
  | nil => simp
  | cons length lengths ih =>
    obtain ⟨hstart, hall⟩ := @ih (max start length)
    exact ⟨(le_max_left _ _).trans hstart,
      List.forall_mem_cons.mpr ⟨(le_max_right _ _).trans hstart, hall⟩⟩

/-- Every name has its turn. -/
theorem mem_inTurns_iff {found : List (Resource × List String)} {resource : Resource}
    {name : String} :
    (resource, name) ∈ inTurns found ↔ ∃ names, (resource, names) ∈ found ∧ name ∈ names := by
  simp only [inTurns, List.mem_flatMap, List.mem_range, List.mem_filterMap, Option.map_eq_some_iff,
    Prod.mk.injEq]
  constructor
  · rintro ⟨turn, -, ⟨owner, names⟩, hfound, other, hturn, rfl, rfl⟩
    exact ⟨names, hfound, List.mem_of_getElem? hturn⟩
  · rintro ⟨names, hfound, hname⟩
    obtain ⟨turn, hturn⟩ := List.mem_iff_getElem?.mp hname
    obtain ⟨hlt, -⟩ := List.getElem?_eq_some_iff.mp hturn
    have hlength := (@le_foldl_max (found.map fun entry => entry.2.length) 0).2 names.length
      (List.mem_map_of_mem hfound)
    exact ⟨turn, hlt.trans_le hlength, (resource, names), hfound, name, hturn, rfl, rfl⟩

/-- **Nothing else is deleted with a machine**, as nothing else is there. -/
theorem exec_sweep (settings : ClusterSettings) (id : String) (hns : IsLabelText ns)
    (hstore : store.HoldsMachines) :
    ∃ changed : Store, changed.kept = store.kept ∧
      ((sweep settings id ns).exec platform.answer).run store = (.ok (), changed) := by
  -- All lists are empty, and asking for them changes nothing that is kept ...
  obtain ⟨found, changed, hempty, hchanged, hfound⟩ := Operation.exec_mapM platform.answer
    store (fun resource => do return (resource, ← ownedNames settings resource id ns))
    (fun _ entry => entry.2 = []) (fun changed => changed.kept = store.kept)
    (fun resource hresource state hstate => ⟨(resource, []), state.tick, rfl, hstate, by
      rw [Operation.exec_bind_ok (exec_ownedNames hns (hstore.congr hstate) hresource)]
      rfl⟩) rfl
  refine ⟨changed, hchanged, ?_⟩
  rw [sweep, Operation.exec_bind_ok hfound]
  -- ... so that there is nothing to delete.
  have hturns : inTurns found = [] := by
    refine List.eq_nil_iff_forall_not_mem.mpr fun (resource, name) hmem => ?_
    obtain ⟨names, hnames, hname⟩ := mem_inTurns_iff.mp hmem
    obtain ⟨-, -, hnil⟩ := hempty _ hnames
    rw [show names = [] from hnil] at hname
    cases hname
  rw [hturns]
  rfl

end Cluster

end VmProvisioning
