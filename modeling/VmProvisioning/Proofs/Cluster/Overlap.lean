import VmProvisioning.Proofs.Cluster.Retry
import VmProvisioning.Proofs.Interleaving

/-!
# Starting and stopping a machine at the same time

A machine is started or stopped with two requests. The first one looks at its object, and the
second one changes the desired run state. Nothing ties the change to what was seen. When two calls
with the same purpose both look before either changes anything, both find the machine as it was, and
both succeed. Every other course of two calls is as if one of them had been over before the other
one began.

## Main definitions

* `setRunning`: starting or stopping a machine
* `proceed`, `afterLooking`: how a call goes on from the object that it has seen
* `Races`: two calls with the same purpose that both look first

## Main results

* `advances_setRunning`: what a call has seen after its first request
* `isSerial_of_not_races`: calls that do not race are as if they were made one after the other
* `results_of_races`: calls that race both succeed
* `isSerial_iff_not_races`: two calls are as if they were made one after the other exactly when they
  do not race
-/

namespace VmProvisioning

open Api Interaction

namespace Cluster

open DnsLabel

variable (settings : ClusterSettings)

/-! ## Calls -/

/-- Start or stop a machine. -/
def setRunning (isRunning : Bool) (id ns : String) : Action Unit :=
  if isRunning then start settings id ns else stop settings id ns

/-- The conflict of a call with a machine that is already to be as the call wants it. -/
def alreadySet (isRunning : Bool) (id ns : String) : Failure :=
  .conflictFor (if isRunning then .alreadyRunning else .alreadyStopped) ns id

/-- How a call goes on with the object that it has seen. -/
def proceed (isRunning : Bool) (id ns : String) (object : Json) : Action Unit :=
  if Definition.wantsRunning object = isRunning then throw (alreadySet isRunning id ns)
  else patchRunning settings id ns object isRunning

/-- **How a call goes on** from the object that is kept when it looks. -/
def afterLooking (isRunning : Bool) (id ns : String) : Option Json → Action Unit
  | some object => proceed settings isRunning id ns object
  | none => throw (.notFound Kind.machine ns id)

/-- A call looks at the machine object first. -/
theorem setRunning_eq (isRunning : Bool) (id ns : String) :
    setRunning settings isRunning id ns = (Operation.ofExcept (validate id) >>= fun _ =>
      getMachine settings id ns >>= proceed settings isRunning id ns) := by
  have hbody : ∀ object, proceed settings isRunning id ns object = (do
      if Definition.wantsRunning object = isRunning then throw (alreadySet isRunning id ns)
      patchRunning settings id ns object isRunning) := by
    intro object
    unfold proceed
    split <;> rfl
  rw [funext hbody]
  cases isRunning with
  | true => rfl
  | false =>
    simp only [setRunning, stop, Bool.not_eq_true']
    rfl

/-- Changing the run state of an object that has the same patch is the same. -/
theorem proceed_seen {object seen : Json} (h : IsSeen object seen) (isRunning : Bool)
    (id ns : String) :
    proceed settings isRunning id ns seen = proceed settings isRunning id ns object := by
  simp only [proceed, patchRunning, h.wantsRunning, h.runPatch]

variable {settings} {platform : Platform} {store final : Store} {id ns : String} {object : Json}
  {isRunning one other : Bool} {schedule : List Side}
  {results : Except Failure Unit × Except Failure Unit}

/-- A call that has seen a machine otherwise than it shall be changes it. -/
theorem afterLooking_of_open {kept : Option Json} (hkept : kept = some object)
    (hopen : Definition.wantsRunning object ≠ isRunning) (settings : ClusterSettings)
    (id ns : String) :
    afterLooking settings isRunning id ns kept = patchRunning settings id ns object isRunning := by
  rw [hkept, afterLooking, proceed, if_neg hopen]

/-- A call is over after looking, or it has seen a machine that is not as it shall be. -/
theorem afterLooking_cases (settings : ClusterSettings) (isRunning : Bool) (id ns : String)
    (kept : Option Json) :
    (∃ failure, (afterLooking settings isRunning id ns kept).run = .done (.error failure)) ∨
      ∃ object, kept = some object ∧ Definition.wantsRunning object ≠ isRunning ∧
        afterLooking settings isRunning id ns kept =
          patchRunning settings id ns object isRunning := by
  cases kept with
  | none => exact .inl ⟨_, rfl⟩
  | some object =>
    by_cases hset : Definition.wantsRunning object = isRunning
    · refine .inl ⟨alreadySet isRunning id ns, ?_⟩
      rw [afterLooking, proceed, if_pos hset]
      rfl
    · exact .inr ⟨object, rfl, hset, afterLooking_of_open rfl hset settings id ns⟩

/-- A call that cannot look is over at once. -/
theorem setRunning_run_of_not_sendable
    (h : ¬(validate id = .ok () ∧ (Request.get machines ns id).isSendable = true))
    (settings : ClusterSettings) (isRunning : Bool) :
    ∃ failure, (setRunning settings isRunning id ns).run = .done (.error failure) := by
  rw [setRunning_eq]
  cases hvalid : validate id with
  | error failure => exact ⟨failure, rfl⟩
  | ok =>
    have hsendable : (Request.get machines ns id).isSendable = false :=
      Bool.eq_false_iff.mpr fun hsendable => h ⟨hvalid, hsendable⟩
    refine ⟨.unreadable, ?_⟩
    rw [Operation.ofExcept_ok_bind, Operation.bind_run, getMachine, exchangeFor,
      exchangeOr_eq_done hsendable]
    rfl

section Requests

variable (hplatform : platform.RunsMachines)
  (hsendable : (Request.get machines ns id).isSendable = true)

include hplatform hsendable

/-- **The first request** shows the object that is kept, and leaves it there. -/
theorem advances_setRunning (hvalid : validate id = .ok ()) {kept : Option Json}
    (hkept : store.kept (machineAt ns id) = kept)
    (hreadable : ∀ object, kept = some object → IsReadable object) (settings : ClusterSettings)
    (isRunning : Bool) :
    Advances platform.answer (setRunning settings isRunning id ns).run store
      (afterLooking settings isRunning id ns kept).run store.tick := by
  rw [setRunning_eq, hvalid, Operation.ofExcept_ok_bind, Operation.bind_run]
  cases kept with
  | none => exact (advances_getMachine_of_none hplatform hsendable hkept).andThen _
  | some object =>
    obtain ⟨seen, hseen, hsees⟩ := exists_seen hplatform store.moment (hreadable object rfl)
    rw [afterLooking, ← proceed_seen settings hsees]
    exact (advances_getMachine_of_some hplatform hsendable hkept hseen).andThen _

end Requests

/-! ## Two calls -/

/-- **Two calls race**: they have the same purpose, the machine is not as they want it, and both
look at it first. -/
structure Races (store : Store) (id ns : String) (one other : Bool) (schedule : List Side) :
    Prop where
  agree : one = other
  isOpen : ∃ object, store.kept (machineAt ns id) = some object ∧
    Definition.wantsRunning object ≠ one
  overlap : ∃ side rest, schedule = side :: side.other :: rest

theorem Races.swap (h : Races store id ns one other schedule) :
    Races store id ns other one (schedule.map Side.other) where
  agree := h.agree.symm
  isOpen := h.agree ▸ h.isOpen
  overlap := by
    obtain ⟨side, rest, rfl⟩ := h.overlap
    exact ⟨side.other, rest.map Side.other, rfl⟩

/-- The desired run state of a machine, when there is one. -/
def runState? (ns id : String) (store : Store) : Option Bool :=
  (store.kept (machineAt ns id)).map Definition.wantsRunning

section Calls

variable (hplatform : platform.RunsMachines)
  (hreadable : ∀ object, store.kept (machineAt ns id) = some object → IsReadable object)

include hplatform hreadable

section Sendable

variable (hvalid : validate id = .ok ())
  (hsendable : (Request.get machines ns id).isSendable = true)

include hvalid hsendable

/-- The first call looks first. Unless the two race, the results are serial. -/
theorem isSerial_of_first {τ : Type} (observe : Store → τ)
    (hraces : ¬Races store id ns one other (.first :: schedule))
    (h : (interleave platform.answer (.first :: schedule) (setRunning settings one id ns).run
      (setRunning settings other id ns).run).run store = (some results, final)) :
    IsSerial platform.answer observe (setRunning settings one id ns).run
      (setRunning settings other id ns).run store results final := by
  have hlook : ∀ isRunning (changed : Store), changed.kept = store.kept →
      Advances platform.answer (setRunning settings isRunning id ns).run changed
        (afterLooking settings isRunning id ns (store.kept (machineAt ns id))).run
        changed.tick := by
    intro isRunning changed heq
    exact advances_setRunning hplatform hsendable hvalid (congrFun heq _) hreadable settings
      isRunning
  have hfirst := (hlook one store rfl).run
  rw [(hlook one store rfl).interleave_first] at h
  rcases afterLooking_cases settings one id ns (store.kept (machineAt ns id)) with
    ⟨failure, hdone⟩ | ⟨object, hkept, hopen, hpatch⟩
  -- The first call is over after looking, and the second one runs after it.
  · rw [hdone] at h hfirst
    obtain ⟨hresult, hsecond⟩ := interleave_done h
    exact isSerial_of_run hfirst hresult hsecond observe
  rw [hpatch] at h hfirst
  have hact : ∀ changed : Store, changed.kept = store.kept → Advances platform.answer
      (patchRunning settings id ns object one).run changed (.done (.ok ()))
      (changed.put (machineAt ns id) (object.merge (Definition.runPatch object one))).tick :=
    fun changed heq => advances_patchRunning hplatform hsendable (heq ▸ hkept)
      (hreadable object hkept) rfl settings one
  rcases schedule with _ | ⟨side, rest⟩
  · exact absurd rfl ((hact store.tick rfl).schedule_ne_nil h)
  cases side with
  -- The first call acts before the second one looks.
  | first =>
    rw [(hact store.tick rfl).interleave_first] at h
    obtain ⟨hresult, hsecond⟩ := interleave_done h
    exact isSerial_of_run (hfirst.trans (hact store.tick rfl).run) hresult hsecond observe
  -- Both look first. As they do not race, the second one wants what is there already, and is as if
  -- it had been over before.
  | second =>
    rw [(hlook other store.tick rfl).interleave_second] at h
    rcases afterLooking_cases settings other id ns (store.kept (machineAt ns id)) with
      ⟨failure, hdone⟩ | ⟨object', hkept', hopen', -⟩
    · rw [hdone] at h
      obtain ⟨hresult, hrest⟩ := interleave_done_right h
      have hsecond := (hlook other store rfl).run
      have hfirst := (hlook one store.tick rfl).run
      rw [hdone] at hsecond
      rw [hpatch] at hfirst
      have hserial : IsSerial platform.answer observe (setRunning settings other id ns).run
          (setRunning settings one id ns).run store results.swap final :=
        isSerial_of_run hsecond hresult (hfirst.trans hrest) observe
      exact hserial.swap
    · obtain rfl := Option.some.inj (hkept.symm.trans hkept')
      refine absurd ⟨?_, ⟨object, hkept, hopen⟩, .first, rest, rfl⟩ hraces
      exact (Bool.eq_not_of_ne hopen.symm).trans (Bool.eq_not_of_ne hopen'.symm).symm

end Sendable

/-- **Calls that do not race are as if they were made one after the other.** -/
theorem isSerial_of_not_races {τ : Type} (observe : Store → τ)
    (hraces : ¬Races store id ns one other schedule)
    (h : (interleave platform.answer schedule (setRunning settings one id ns).run
      (setRunning settings other id ns).run).run store = (some results, final)) :
    IsSerial platform.answer observe (setRunning settings one id ns).run
      (setRunning settings other id ns).run store results final := by
  by_cases hlooks : validate id = .ok () ∧ (Request.get machines ns id).isSendable = true
  · obtain ⟨hvalid, hsendable⟩ := hlooks
    rcases schedule with _ | ⟨side, rest⟩
    · have hlook := advances_setRunning hplatform hsendable hvalid rfl hreadable settings one
      exact absurd rfl (hlook.schedule_ne_nil h)
    cases side with
    | first => exact isSerial_of_first hplatform hreadable hvalid hsendable observe hraces h
    | second =>
      have hraces' : ¬Races store id ns other one (.first :: rest.map Side.other) := by
        intro hswapped
        have hback := hswapped.swap
        rw [List.map_cons, Side.map_other_map_other] at hback
        exact hraces hback
      exact (isSerial_of_first hplatform hreadable hvalid hsendable observe hraces'
        (interleave_swap_eq_some h)).swap
  -- Neither call asks anything.
  · obtain ⟨failure, hone⟩ := setRunning_run_of_not_sendable hlooks settings one
    obtain ⟨failure', hother⟩ := setRunning_run_of_not_sendable hlooks settings other
    rw [hone, hother] at h ⊢
    obtain ⟨hresult, hsecond⟩ := interleave_done h
    have hfirst : ((Interaction.done (.error failure) : Dialogue (Except Failure Unit)).run
        platform.answer).run store = (.error failure, store) := rfl
    exact isSerial_of_run hfirst hresult hsecond observe

end Calls

section Changed

variable (hplatform : platform.RunsMachines)
  (hsendable : (Request.get machines ns id).isSendable = true)
  (hkept : store.kept (machineAt ns id) = some object) (hreadable : IsReadable object)

include hplatform hsendable hkept hreadable

/-- Both calls change a machine that both have seen before. -/
theorem results_of_acts
    (h : (interleave platform.answer schedule (patchRunning settings id ns object isRunning).run
      (patchRunning settings id ns object isRunning).run).run store = (some results, final)) :
    results = (.ok (), .ok ()) ∧ runState? ns id final = some isRunning := by
  have hfirst :=
    advances_patchRunning hplatform hsendable hkept hreadable rfl settings isRunning
  -- The second one to act finds the object changed, and makes the same change again.
  have hchanged : (store.put (machineAt ns id)
      (object.merge (Definition.runPatch object isRunning))).tick.kept (machineAt ns id) =
        some (object.merge (Definition.runPatch object isRunning)) := by
    rw [Store.kept_tick, Store.kept_put, if_pos rfl]
  have hsecond := advances_patchRunning hplatform hsendable hchanged
    (Definition.isReadable_merge_runPatch hreadable isRunning)
    (Definition.runPatch_merge_runPatch object isRunning).symm settings isRunning
  have hends : ∀ outcome, ((patchRunning settings id ns object isRunning).run.run
      platform.answer).run (store.put (machineAt ns id)
        (object.merge (Definition.runPatch object isRunning))).tick = (outcome, final) →
      outcome = .ok () ∧ runState? ns id final = some isRunning := by
    intro outcome hrun
    rw [hsecond.run] at hrun
    obtain ⟨rfl, rfl⟩ := Prod.mk.inj hrun
    refine ⟨rfl, ?_⟩
    rw [runState?, Store.kept_tick, Store.kept_put, if_pos rfl, Option.map_some,
      Definition.wantsRunning_merge_runPatch]
  rcases schedule with _ | ⟨side, rest⟩
  · exact absurd rfl (hfirst.schedule_ne_nil h)
  cases side with
  | first =>
    rw [hfirst.interleave_first] at h
    obtain ⟨hone, hrun⟩ := interleave_done h
    obtain ⟨hother, hfinal⟩ := hends _ hrun
    exact ⟨Prod.ext hone.symm hother, hfinal⟩
  | second =>
    rw [hfirst.interleave_second] at h
    obtain ⟨hother, hrun⟩ := interleave_done_right h
    obtain ⟨hone, hfinal⟩ := hends _ hrun
    exact ⟨Prod.ext hone hother.symm, hfinal⟩

/-- **One call after another one with the same purpose** finds the machine as it shall be. -/
theorem exists_inTurn_setRunning (hvalid : validate id = .ok ())
    (hopen : Definition.wantsRunning object ≠ isRunning) (settings : ClusterSettings) :
    ∃ last, (inTurn platform.answer (setRunning settings isRunning id ns).run
      (setRunning settings isRunning id ns).run).run store =
        ((.ok (), .error (alreadySet isRunning id ns)), last) := by
  have hlook := advances_setRunning hplatform hsendable hvalid hkept
    (fun found hfound => Option.some.inj hfound ▸ hreadable) settings isRunning
  rw [afterLooking_of_open rfl hopen] at hlook
  have htick : store.tick.kept (machineAt ns id) = some object := hkept
  have hact :=
    advances_patchRunning hplatform hsendable htick hreadable rfl settings isRunning
  -- The second call looks at the object that the first one leaves behind.
  obtain ⟨object', hobject'⟩ : ∃ object',
      object.merge (Definition.runPatch object isRunning) = object' := ⟨_, rfl⟩
  have hset : Definition.wantsRunning object' = isRunning :=
    hobject' ▸ Definition.wantsRunning_merge_runPatch object isRunning
  have hreadable' : IsReadable object' :=
    hobject' ▸ Definition.isReadable_merge_runPatch hreadable isRunning
  rw [hobject'] at hact
  have hchanged : (store.tick.put (machineAt ns id) object').tick.kept (machineAt ns id) =
      some object' := by
    rw [Store.kept_tick, Store.kept_put, if_pos rfl]
  have hagain := advances_setRunning hplatform hsendable hvalid hchanged
    (fun found hfound => Option.some.inj hfound ▸ hreadable') settings isRunning
  rw [afterLooking, proceed, if_pos hset] at hagain
  refine ⟨(store.tick.put (machineAt ns id) object').tick.tick, ?_⟩
  rw [inTurn_run (hlook.run.trans hact.run), hagain.run]
  rfl

end Changed

/-! ## Races -/

section Races

variable (hplatform : platform.RunsMachines)
  (hreadable : ∀ object, store.kept (machineAt ns id) = some object → IsReadable object)
  (hraces : Races store id ns one other schedule)
  (h : (interleave platform.answer schedule (setRunning settings one id ns).run
    (setRunning settings other id ns).run).run store = (some results, final))

include hraces h

/-- Only calls that can look can race. -/
theorem Races.isSendable :
    validate id = .ok () ∧ (Request.get machines ns id).isSendable = true := by
  by_contra hlooks
  obtain ⟨failure, hone⟩ := setRunning_run_of_not_sendable hlooks settings one
  obtain ⟨failure', hother⟩ := setRunning_run_of_not_sendable hlooks settings other
  obtain ⟨side, rest, rfl⟩ := hraces.overlap
  rw [hone, hother] at h
  cases interleave_done_done h

include hplatform hreadable

/-- **Calls that race both succeed**, and leave the machine as both want it. -/
theorem results_of_races : results = (.ok (), .ok ()) ∧ runState? ns id final = some one := by
  obtain ⟨hvalid, hsendable⟩ := hraces.isSendable h
  obtain rfl := hraces.agree
  obtain ⟨object, hkept, hopen⟩ := hraces.isOpen
  obtain ⟨side, rest, rfl⟩ := hraces.overlap
  have hlook : ∀ changed : Store, changed.kept = store.kept → Advances platform.answer
      (setRunning settings one id ns).run changed (patchRunning settings id ns object one).run
      changed.tick := by
    intro changed heq
    rw [← afterLooking_of_open hkept hopen settings id ns]
    exact advances_setRunning hplatform hsendable hvalid (congrFun heq _) hreadable settings one
  -- Whoever looks first, both go on to change the machine.
  have hacts : (interleave platform.answer rest (patchRunning settings id ns object one).run
      (patchRunning settings id ns object one).run).run store.tick.tick =
        (some results, final) := by
    cases side with
    | first =>
      rwa [(hlook store rfl).interleave_first, Side.other,
        (hlook store.tick rfl).interleave_second] at h
    | second =>
      rwa [(hlook store rfl).interleave_second, Side.other,
        (hlook store.tick rfl).interleave_first] at h
  have hkept' : store.tick.tick.kept (machineAt ns id) = some object := hkept
  exact results_of_acts hplatform hsendable hkept' (hreadable object hkept) hacts

/-- Calls that race are not as if they were made one after the other. -/
theorem not_isSerial_of_races {τ : Type} (observe : Store → τ) :
    ¬IsSerial platform.answer observe (setRunning settings one id ns).run
      (setRunning settings other id ns).run store results final := by
  obtain ⟨hvalid, hsendable⟩ := hraces.isSendable h
  obtain ⟨rfl, -⟩ := results_of_races hplatform hreadable hraces h
  obtain rfl := hraces.agree
  obtain ⟨object, hkept, hopen⟩ := hraces.isOpen
  obtain ⟨last, hserial⟩ := exists_inTurn_setRunning hplatform hsendable hkept
    (hreadable object hkept) hvalid hopen settings
  -- In both orders the later call would have failed.
  rintro (⟨final', hrun, -⟩ | ⟨final', hrun, -⟩)
  · cases hserial.symm.trans hrun
  · cases hserial.symm.trans hrun

end Races

/-- **Two calls are as if they were made one after the other exactly when they do not race**: the
two results and the run state at the end are those of one of the two orders. Calls that race both
succeed. -/
theorem isSerial_iff_not_races (hplatform : platform.RunsMachines)
    (hreadable : ∀ object, store.kept (machineAt ns id) = some object → IsReadable object)
    (h : (interleave platform.answer schedule (setRunning settings one id ns).run
      (setRunning settings other id ns).run).run store = (some results, final)) :
    (IsSerial platform.answer (runState? ns id) (setRunning settings one id ns).run
        (setRunning settings other id ns).run store results final ↔
      ¬Races store id ns one other schedule) ∧
      (Races store id ns one other schedule →
        results = (.ok (), .ok ()) ∧ runState? ns id final = some one) := by
  refine ⟨⟨?_, ?_⟩, ?_⟩
  · intro hserial hraces
    exact not_isSerial_of_races hplatform hreadable hraces h _ hserial
  · intro hraces
    exact isSerial_of_not_races hplatform hreadable _ hraces h
  · intro hraces
    exact results_of_races hplatform hreadable hraces h

/-- A cluster with a machine that is not to run. -/
def haltedStore : Store :=
  Store.empty.put (machineAt "acme-dev" "web") webMachine

theorem isReadable_of_haltedStore (object : Json)
    (h : haltedStore.kept (machineAt "acme-dev" "web") = some object) : IsReadable object := by
  rw [haltedStore, Store.kept_put, if_pos rfl] at h
  obtain rfl := Option.some.inj h
  exact (by decide +kernel : (object? webMachine).isSome)

/-- A stop that looks between the two requests of a start is as if it had come before. -/
theorem isSerial_stop_within_start :
    podPlatform.RunsMachines ∧
      (∀ object, haltedStore.kept (machineAt "acme-dev" "web") = some object →
        IsReadable object) ∧
      ∃ final, (interleave podPlatform.answer [.first, .second, .first]
          (setRunning webSettings true "web" "acme-dev").run
          (setRunning webSettings false "web" "acme-dev").run).run haltedStore =
            (some (.ok (), .error (.conflictFor .alreadyStopped "acme-dev" "web")), final) ∧
        IsSerial podPlatform.answer (runState? "acme-dev" "web")
          (setRunning webSettings true "web" "acme-dev").run
          (setRunning webSettings false "web" "acme-dev").run haltedStore
          (.ok (), .error (.conflictFor .alreadyStopped "acme-dev" "web")) final := by
  obtain ⟨final, hrun⟩ : ∃ final, (interleave podPlatform.answer [.first, .second, .first]
      (setRunning webSettings true "web" "acme-dev").run
      (setRunning webSettings false "web" "acme-dev").run).run haltedStore =
        (some (.ok (), .error (.conflictFor .alreadyStopped "acme-dev" "web")), final) :=
    ⟨_, Prod.ext (by decide +kernel) rfl⟩
  refine ⟨runsMachines_podPlatform, isReadable_of_haltedStore, final, hrun, ?_⟩
  refine (isSerial_iff_not_races runsMachines_podPlatform isReadable_of_haltedStore hrun).1.mpr ?_
  intro hraces
  cases hraces.agree

/-- Two starts that both look first both succeed, which they never do one after the other. -/
theorem exists_not_isSerial_of_starts :
    podPlatform.RunsMachines ∧
      (∀ object, haltedStore.kept (machineAt "acme-dev" "web") = some object →
        IsReadable object) ∧
      ∃ schedule final, (interleave podPlatform.answer schedule
          (start webSettings "web" "acme-dev").run
          (start webSettings "web" "acme-dev").run).run haltedStore =
            (some (.ok (), .ok ()), final) ∧
        ¬IsSerial podPlatform.answer (runState? "acme-dev" "web")
          (start webSettings "web" "acme-dev").run (start webSettings "web" "acme-dev").run
          haltedStore (.ok (), .ok ()) final := by
  have hkept : haltedStore.kept (machineAt "acme-dev" "web") = some webMachine := by
    rw [haltedStore, Store.kept_put, if_pos rfl]
  have hraces : Races haltedStore "web" "acme-dev" true true
      [.first, .second, .first, .second] :=
    ⟨rfl, ⟨webMachine, hkept, by decide +kernel⟩, .first, [.first, .second], rfl⟩
  obtain ⟨final, hrun⟩ : ∃ final, (interleave podPlatform.answer
      [.first, .second, .first, .second] (setRunning webSettings true "web" "acme-dev").run
      (setRunning webSettings true "web" "acme-dev").run).run haltedStore =
        (some (.ok (), .ok ()), final) :=
    ⟨_, Prod.ext (by decide +kernel) rfl⟩
  exact ⟨runsMachines_podPlatform, isReadable_of_haltedStore, _, final, hrun,
    not_isSerial_of_races runsMachines_podPlatform isReadable_of_haltedStore hraces hrun _⟩

end Cluster

end VmProvisioning
