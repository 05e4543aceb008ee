import VmProvisioning.Proofs.Deployment.Course
import VmProvisioning.Proofs.Simulation.Independence

/-!
# Concurrent deployments

Deployments that share a registry take their steps in any order, and other clients visit the
registry in between. A deployment that fails deletes its machine in a step of its own, when others
may already have tried to create a machine of the same name. It still never deletes a machine of
another deployment: from its creation to its deletion a machine is in the custody of the deployment
that created it.

## Main definitions

* `DeployTask`, `Circumstances`: a deployment, and what a step of it meets
* `Workload`, `Move`, `Workload.after`: deployments in progress, and what they come to
* `Tenure`, `Conduct`: an interaction that creates a machine at most once and deletes it only after
  that
* `Custody`: an interaction that deletes a machine only after it has created it
* `Handover`: what a step does to the custody of a machine
* `Ledger`, `Workload.IsAccounted`: every machine was there at first or is in one custody

## Main results

* `DeployTask.conduct`, `DeployTask.custody`: deployments create a machine once, and delete only
  what they have created
* `Custody.handover`: what a query does to the machines of a registry
* `Workload.IsAccounted.step`, `Workload.IsAccounted.after`: all machines stay accounted for
* `Workload.machines_after`: no machine is lost, and none is deployed twice
-/

namespace VmProvisioning

/-! ## Deployments in progress -/

/-- **A deployment** that is to be carried out. -/
structure DeployTask (σ : Type) where
  source : RandomSource σ
  state : σ
  request : DeployRequest
  datacenter : Datacenter

/-- A deployment in progress. -/
abbrev Progress (α : Type) :=
  Interaction DeployQuery DeployQuery.Reply α

namespace DeployTask

variable {σ : Type}

/-- The machine that a deployment is for, by namespace and id. -/
def target (task : DeployTask σ) : String × String :=
  (task.datacenter.workloadNamespace, DnsLabel.sanitize task.request.machineName)

/-- A deployment that has not begun. -/
def start (task : DeployTask σ) : Progress (Except Failure Deployed) :=
  (deploy task.source task.state task.request task.datacenter).run

end DeployTask

/-- **What a step of a deployment meets**: the time, and what the store of templates and the sink
answer. -/
structure Circumstances where
  now : String
  fetched : Except Failure Json
  submitted : Except Failure Unit

/-- The answer to a step of a deployment. Machines are in the registry. -/
def Circumstances.answer (circumstances : Circumstances) :
    (query : DeployQuery) → StateM Registry query.Reply
  | .fetch _ => return circumstances.fetched
  | .call call => Registry.answer circumstances.now call
  | .submit _ => return circumstances.submitted

/-- **Deployments that share a registry.** -/
structure Workload (ι : Type) where
  registry : Registry
  progress : ι → Progress (Except Failure Deployed)

/-- **What happens next**: a deployment takes a step, or another client makes a call, which neither
creates nor deletes. -/
inductive Move (ι : Type) where
  | proceed (i : ι) (circumstances : Circumstances)
  | visit (now : String) (call : Call) (hcall : call.keepsMachines = true)

namespace Workload

variable {ι σ : Type} [DecidableEq ι]

/-- Deployments that have not begun. -/
def start (tasks : ι → DeployTask σ) (registry : Registry) : Workload ι :=
  ⟨registry, fun i => (tasks i).start⟩

/-- The workload after a move. -/
def step (workload : Workload ι) : Move ι → Workload ι
  | .proceed i circumstances =>
    match workload.progress i with
    | .done _ => workload
    | .ask query next =>
      let (reply, registry) := (circumstances.answer query).run workload.registry
      ⟨registry, Function.update workload.progress i (next reply)⟩
  | .visit now call _ =>
    { workload with registry := ((Registry.answer now call).run workload.registry).2 }

/-- **The workload after a sequence of moves.** -/
def after (workload : Workload ι) (moves : List (Move ι)) : Workload ι :=
  moves.foldl step workload

/-- A deployment that has returned takes no steps. -/
theorem step_of_done {workload : Workload ι} {i : ι} {result : Except Failure Deployed}
    (h : workload.progress i = .done result) (circumstances : Circumstances) :
    workload.step (.proceed i circumstances) = workload := by
  simp [step, h]

/-- A deployment in progress asks its query. -/
theorem step_of_ask {workload : Workload ι} {i : ι} {query : DeployQuery}
    {next : query.Reply → Progress (Except Failure Deployed)}
    (h : workload.progress i = .ask query next) (circumstances : Circumstances) :
    workload.step (.proceed i circumstances) =
      ⟨((circumstances.answer query).run workload.registry).2,
        Function.update workload.progress i
          (next ((circumstances.answer query).run workload.registry).1)⟩ := by
  simp only [step, h]
  rfl

end Workload

/-! ## Conduct -/

/-- **How far a deployment is with its machine.** -/
inductive Tenure where
  /-- It has not created the machine. -/
  | pending
  /-- It has created the machine. -/
  | held
  /-- It has asked for the deletion of the machine that it created. -/
  | over
deriving DecidableEq

/-- Whether the machine was created and is to stay. -/
def Tenure.isHeld (tenure : Tenure) : Bool :=
  tenure == held

/-- The tenure after an attempt to create the machine. -/
def Tenure.ofCreation (reply : Except Failure Unit) : Tenure :=
  if reply.isOk then held else pending

variable {α β : Type} {target : String × String} {tenure : Tenure}

/-- **An interaction that creates a machine at most once, and deletes it at most once after that.**
`IsEnd` tells with which results it may end, by the tenure. -/
inductive Conduct (target : String × String) (IsEnd : Tenure → α → Prop) :
    Tenure → Progress α → Prop
  | done {tenure : Tenure} {result : α} (h : IsEnd tenure result) :
    Conduct target IsEnd tenure (.done result)
  | fetch {tenure : Tenure} {templateId : String} {next : Except Failure Json → Progress α}
      (h : ∀ reply, Conduct target IsEnd tenure (next reply)) :
    Conduct target IsEnd tenure (.ask (.fetch templateId) next)
  | submit {tenure : Tenure} {manifest : Manifest} {next : Except Failure Unit → Progress α}
      (h : ∀ reply, Conduct target IsEnd tenure (next reply)) :
    Conduct target IsEnd tenure (.ask (.submit manifest) next)
  | create {machine : Machine} {datacenter : Datacenter} {template : Template}
      {base : Option Json} {next : Except Failure Unit → Progress α}
      (htarget : (datacenter.workloadNamespace, machine.id) = target)
      (h : ∀ reply, Conduct target IsEnd (.ofCreation reply) (next reply)) :
    Conduct target IsEnd .pending (.ask (.call (.create machine datacenter template base)) next)
  | delete {id ns : String} {next : Except Failure Unit → Progress α}
      (htarget : (ns, id) = target) (h : ∀ reply, Conduct target IsEnd .over (next reply)) :
    Conduct target IsEnd .held (.ask (.call (.delete id ns)) next)

namespace Conduct

/-- A sequence goes on with the tenure in which the first part ends. -/
theorem andThen {Middle : Tenure → α → Prop} {IsEnd : Tenure → β → Prop} {first : Progress α}
    {next : α → Progress β} (hfirst : Conduct target Middle tenure first)
    (hnext : ∀ tenure value, Middle tenure value → Conduct target IsEnd tenure (next value)) :
    Conduct target IsEnd tenure (first.andThen next) := by
  -- Induction on the conduct of the first part.
  induction hfirst with
  | done h => exact hnext _ _ h
  | fetch _ ih => exact .fetch ih
  | submit _ ih => exact .submit ih
  | create htarget _ ih => exact .create htarget ih
  | delete htarget _ ih => exact .delete htarget ih

theorem bind (Middle : Tenure → Except Failure α → Prop)
    {IsEnd : Tenure → Except Failure β → Prop} {first : DeployAction α} {next : α → DeployAction β}
    (hfirst : Conduct target Middle tenure first.run)
    (hnext : ∀ tenure value, Middle tenure (.ok value) →
      Conduct target IsEnd tenure (next value).run)
    (herror : ∀ tenure failure, Middle tenure (.error failure) → IsEnd tenure (.error failure)) :
    Conduct target IsEnd tenure (first >>= next).run := by
  rw [Operation.bind_run]
  refine hfirst.andThen fun tenure outcome houtcome => ?_
  cases outcome with
  | error failure => exact .done (herror tenure failure houtcome)
  | ok value => exact hnext tenure value houtcome

theorem tryCatch {Middle IsEnd : Tenure → Except Failure α → Prop} {first : DeployAction α}
    {remedy : Failure → DeployAction α} (hfirst : Conduct target Middle tenure first.run)
    (hok : ∀ tenure value, Middle tenure (.ok value) → IsEnd tenure (.ok value))
    (hremedy : ∀ tenure failure, Middle tenure (.error failure) →
      Conduct target IsEnd tenure (remedy failure).run) :
    Conduct target IsEnd tenure (MonadExcept.tryCatch first remedy).run := by
  rw [Operation.tryCatch_run]
  refine hfirst.andThen fun tenure outcome houtcome => ?_
  cases outcome with
  | error failure => exact hremedy tenure failure houtcome
  | ok value => exact .done (hok tenure value houtcome)

/-- Submitting companions leaves the tenure as it is, whatever the result. -/
theorem submissions (companions : List Manifest) :
    Conduct target (fun tenure _ => tenure = .held) .held
      (companions.forM DeployAction.submit).run := by
  -- Induction on the companions left.
  induction companions with
  | nil => exact .done rfl
  | cons manifest companions ih =>
    refine bind (fun tenure _ => tenure = .held) (.submit fun reply => ?_) ?_ fun _ _ h => h
    · cases reply with
      | error failure => exact .done rfl
      | ok => exact .done rfl
    · rintro _ - rfl
      exact ih

/-- A machine is kept when all companions are accepted, and deleted again otherwise. -/
theorem carryOut {plan : Plan} {datacenter : Datacenter} {template : Template}
    (htarget : (datacenter.workloadNamespace, plan.machine.id) = target) :
    Conduct target (fun tenure result => result.isOk = tenure.isHeld) .pending
      (carryOut plan datacenter template).run := by
  refine bind (fun tenure reply => tenure = .ofCreation reply)
    (.create htarget fun reply => .done rfl) ?_ ?_
  · rintro _ - rfl
    refine tryCatch (submissions plan.companions) ?_ ?_
    · rintro _ - rfl
      rfl
    · rintro _ failure rfl
      refine bind (fun tenure _ => tenure = .over) (.delete htarget fun _ => .done rfl) ?_ ?_
      · rintro _ - rfl
        exact .done rfl
      · rintro _ _ rfl
        rfl
  · rintro _ _ rfl
    rfl

end Conduct

/-- **A deployment creates its machine at most once, and deletes it only after that.** It succeeds
when the machine is to stay. -/
theorem DeployTask.conduct {σ : Type} (task : DeployTask σ) :
    Conduct task.target (fun tenure result => result.isOk = tenure.isHeld) .pending task.start := by
  rw [start, deploy]
  cases Plan.checkTarget task.request task.datacenter with
  | error failure => exact .done rfl
  | ok =>
    rw [Operation.ofExcept_ok_bind]
    refine .bind (fun tenure _ => tenure = .pending) (.fetch fun reply => .done rfl) ?_ ?_
    · rintro _ raw rfl
      cases Template.ofRaw raw with
      | error failure => exact .done rfl
      | ok template =>
        rw [Operation.ofExcept_ok_bind]
        cases hplan : Plan.ofRequest task.source task.state template task.request
          task.datacenter with
        | error failure => exact .done rfl
        | ok plan =>
          rw [Operation.ofExcept_ok_bind]
          obtain ⟨-, materialized, -, rfl⟩ := (Plan.ofRequest_eq_ok_iff _ _ _ _).mp hplan
          exact .bind _ (.carryOut rfl) (fun _ _ h => .done h) fun _ _ h => h
    · rintro _ _ rfl
      rfl

/-! ## Custody -/

variable {holds : Bool}

/-- **An interaction that deletes a machine only after it has created it.** `holds` tells whether
the machine is in its custody, and `keeps` whether a result is that of one which keeps it. -/
inductive Custody (target : String × String) (keeps : α → Bool) : Bool → Progress α → Prop
  | done {holds : Bool} {result : α} (h : keeps result = holds) :
    Custody target keeps holds (.done result)
  | fetch {holds : Bool} {templateId : String} {next : Except Failure Json → Progress α}
      (h : ∀ reply, Custody target keeps holds (next reply)) :
    Custody target keeps holds (.ask (.fetch templateId) next)
  | submit {holds : Bool} {manifest : Manifest} {next : Except Failure Unit → Progress α}
      (h : ∀ reply, Custody target keeps holds (next reply)) :
    Custody target keeps holds (.ask (.submit manifest) next)
  | create {machine : Machine} {datacenter : Datacenter} {template : Template}
      {base : Option Json} {next : Except Failure Unit → Progress α}
      (htarget : (datacenter.workloadNamespace, machine.id) = target)
      (h : ∀ reply, Custody target keeps reply.isOk (next reply)) :
    Custody target keeps false (.ask (.call (.create machine datacenter template base)) next)
  | delete {id ns : String} {next : Except Failure Unit → Progress α}
      (htarget : (ns, id) = target) (h : Custody target keeps false (next (.ok ()))) :
    Custody target keeps true (.ask (.call (.delete id ns)) next)

theorem Custody.done_iff {keeps : α → Bool} {result : α} :
    Custody target keeps holds (.done result) ↔ keeps result = holds := by
  constructor
  · rintro (h | _)
    exact h
  · exact .done

/-- The machine is in the custody of a deployment during its tenure. -/
theorem Conduct.custody {keeps : α → Bool} {progress : Progress α}
    (h : Conduct target (fun tenure result => keeps result = tenure.isHeld) tenure progress) :
    Custody target keeps tenure.isHeld progress := by
  induction h with
  | done h => exact .done h
  | fetch _ ih => exact .fetch ih
  | submit _ ih => exact .submit ih
  | create htarget _ ih =>
    refine .create htarget fun reply => ?_
    cases reply with
    | error failure => exact ih (.error failure)
    | ok => exact ih (.ok ())
  | delete htarget _ ih => exact .delete htarget (ih (.ok ()))

/-- **A deployment deletes its machine only after it has created it**, and keeps it when it
succeeds. -/
theorem DeployTask.custody {σ : Type} (task : DeployTask σ) :
    Custody task.target Except.isOk false task.start :=
  task.conduct.custody

/-! ## What a step does to custody -/

/-- **What a step does to the custody of a machine**, and to the machines that are there: nothing,
or it takes custody of a machine that was not there, or it gives up one that was. -/
inductive Handover (target : String × String) (machines : Set (String × String)) :
    Bool → Bool → Set (String × String) → Prop
  | none {holds : Bool} : Handover target machines holds holds machines
  | take (hnew : target ∉ machines) : Handover target machines false true (insert target machines)
  | giveUp : Handover target machines true false {other ∈ machines | other ≠ target}

variable {registry : Registry}

/-- **What a query does to the machines of a registry** when its interaction has custody of a
machine only while it is there. -/
theorem Custody.handover {keeps : α → Bool} {query : DeployQuery}
    {next : query.Reply → Progress α} (h : Custody target keeps holds (.ask query next))
    (hordered : Fields.IsOrdered registry) (hholds : holds = true → target ∈ registry.machines)
    (circumstances : Circumstances) :
    ∃ held, Custody target keeps held (next ((circumstances.answer query).run registry).1) ∧
      Handover target registry.machines holds held
        ((circumstances.answer query).run registry).2.machines := by
  cases h with
  | fetch h => exact ⟨holds, h _, .none⟩
  | submit h => exact ⟨holds, h _, .none⟩
  | @create machine datacenter template base _ htarget h =>
    subst htarget
    refine ⟨_, h _, ?_⟩
    show Handover _ _ false (registry.settle _).1.isOk (registry.settle _).2.machines
    cases hcreate : registry.create machine datacenter template.id circumstances.now with
    | error failure => exact .none
    | ok changed =>
      obtain ⟨hnew, hmachines⟩ := Registry.machines_create hcreate
      show Handover _ _ false true changed.machines
      rw [hmachines]
      exact .take hnew
  | @delete id ns _ htarget h =>
    subst htarget
    -- The machine is there, so that it can be deleted.
    obtain ⟨changed, hdelete, hmachines⟩ := Registry.machines_delete hordered (hholds rfl)
    have hanswer : (circumstances.answer (.call (.delete id ns))).run registry =
        (.ok (), changed) := by
      show registry.settle (registry.delete id ns) = _
      rw [hdelete]
      rfl
    rw [hanswer]
    refine ⟨false, h, ?_⟩
    show Handover _ _ true false changed.machines
    rw [hmachines]
    exact .giveUp

/-! ## Accounting for all machines -/

section Ledger

variable {ι : Type} {targets : ι → String × String} {initial machines : Set (String × String)}
  {holders : ι → Bool}

/-- **Every machine was there at first or is in the custody of one deployment**, which created it
after that. -/
structure Ledger (targets : ι → String × String) (initial machines : Set (String × String))
    (holders : ι → Bool) : Prop where
  unique : ∀ i j, holders i = true → holders j = true → targets i = targets j → i = j
  fresh : ∀ i, holders i = true → targets i ∉ initial
  mem_iff : ∀ target,
    target ∈ machines ↔ target ∈ initial ∨ ∃ i, holders i = true ∧ targets i = target

namespace Ledger

theorem start (targets : ι → String × String) (initial : Set (String × String)) :
    Ledger targets initial initial fun _ => false where
  unique _ _ h := by cases h
  fresh _ h := by cases h
  mem_iff target := by simp

theorem mem_of_holds (h : Ledger targets initial machines holders) {i : ι}
    (hholds : holders i = true) : targets i ∈ machines :=
  (h.mem_iff _).mpr (.inr ⟨i, hholds, rfl⟩)

variable [DecidableEq ι]

/-- A deployment takes custody of a machine. -/
theorem take (h : Ledger targets initial machines holders) {i : ι} (hnew : targets i ∉ machines) :
    Ledger targets initial (insert (targets i) machines) (Function.update holders i true) := by
  have hholds : ∀ j, Function.update holders i true j = true ↔ j = i ∨ holders j = true := by
    intro j
    by_cases hji : j = i
    · simp [hji]
    · simp [hji]
  -- No other deployment has custody of a machine that was not there.
  have hothers : ∀ j, holders j = true → targets j ≠ targets i := by
    intro j hj heq
    exact hnew (heq ▸ h.mem_of_holds hj)
  constructor
  · intro j k hj hk heq
    rcases (hholds j).mp hj with rfl | hjold
    · rcases (hholds k).mp hk with rfl | hkold
      · rfl
      · exact absurd heq.symm (hothers k hkold)
    · rcases (hholds k).mp hk with rfl | hkold
      · exact absurd heq (hothers j hjold)
      · exact h.unique j k hjold hkold heq
  · intro j hj
    rcases (hholds j).mp hj with rfl | hjold
    · exact fun hinitial => hnew ((h.mem_iff _).mpr (.inl hinitial))
    · exact h.fresh j hjold
  · intro target
    simp only [Set.mem_insert_iff, h.mem_iff, hholds, or_and_right, exists_or, exists_eq_left]
    constructor
    · rintro (rfl | hinitial | hheld)
      · exact .inr (.inl rfl)
      · exact .inl hinitial
      · exact .inr (.inr hheld)
    · rintro (hinitial | rfl | hheld)
      · exact .inr (.inl hinitial)
      · exact .inl rfl
      · exact .inr (.inr hheld)

/-- A deployment gives up the machine that is in its custody. -/
theorem giveUp (h : Ledger targets initial machines holders) {i : ι} (hholds : holders i = true) :
    Ledger targets initial {other ∈ machines | other ≠ targets i}
      (Function.update holders i false) := by
  have hothers : ∀ j, Function.update holders i false j = true ↔ j ≠ i ∧ holders j = true := by
    intro j
    by_cases hji : j = i
    · simp [hji]
    · simp [hji]
  constructor
  · intro j k hj hk heq
    exact h.unique j k ((hothers j).mp hj).2 ((hothers k).mp hk).2 heq
  · intro j hj
    exact h.fresh j ((hothers j).mp hj).2
  · intro target
    rw [Set.mem_ofPred_eq, h.mem_iff]
    constructor
    · rintro ⟨hinitial | ⟨j, hj, rfl⟩, hne⟩
      · exact .inl hinitial
      · exact .inr ⟨j, (hothers j).mpr ⟨fun hji => hne (hji ▸ rfl), hj⟩, rfl⟩
    · rintro (hinitial | ⟨j, hj, rfl⟩)
      · exact ⟨.inl hinitial, fun heq => h.fresh i hholds (heq ▸ hinitial)⟩
      · obtain ⟨hji, hj⟩ := (hothers j).mp hj
        exact ⟨.inr ⟨j, hj, rfl⟩, fun heq => hji (h.unique j i hj hholds heq)⟩

/-- **A step of a deployment** leaves all machines accounted for. -/
theorem handover (h : Ledger targets initial machines holders) {i : ι} {held : Bool}
    {changed : Set (String × String)}
    (hstep : Handover (targets i) machines (holders i) held changed) :
    Ledger targets initial changed (Function.update holders i held) := by
  generalize hholds : holders i = holds at hstep
  cases hstep with
  | none =>
    rw [← hholds, Function.update_eq_self]
    exact h
  | take hnew => exact h.take hnew
  | giveUp => exact h.giveUp hholds

end Ledger

end Ledger

namespace Workload

variable {ι σ : Type} {tasks : ι → DeployTask σ} {initial : Registry} {holders : ι → Bool}
  {workload : Workload ι}

/-- **All machines of a workload are accounted for**, and every deployment goes on according to
what is in its custody. -/
structure IsAccounted (tasks : ι → DeployTask σ) (initial : Registry) (holders : ι → Bool)
    (workload : Workload ι) : Prop where
  isOrdered : Fields.IsOrdered workload.registry
  custody : ∀ i, Custody (tasks i).target Except.isOk (holders i) (workload.progress i)
  ledger : Ledger (fun i => (tasks i).target) initial.machines workload.registry.machines holders

theorem isAccounted_start (tasks : ι → DeployTask σ) (hordered : Fields.IsOrdered initial) :
    IsAccounted tasks initial (fun _ => false) (start tasks initial) where
  isOrdered := hordered
  custody i := (tasks i).custody
  ledger := .start _ _

/-- The registry stays ordered whatever a step asks. -/
theorem isOrdered_answer (hordered : Fields.IsOrdered registry) (circumstances : Circumstances)
    (query : DeployQuery) :
    Fields.IsOrdered ((circumstances.answer query).run registry).2 := by
  cases query with
  | fetch => exact hordered
  | call call => exact (Registry.answer_change _ call registry).isOrdered hordered
  | submit => exact hordered

/-- A deployment that has returned has custody of its machine when it succeeded. -/
theorem IsAccounted.holds_eq (h : IsAccounted tasks initial holders workload) {i : ι}
    {result : Except Failure Deployed} (hresult : workload.progress i = .done result) :
    holders i = result.isOk := by
  have hcustody := h.custody i
  rw [hresult] at hcustody
  exact (Custody.done_iff.mp hcustody).symm

variable [DecidableEq ι]

/-- **A move leaves all machines accounted for.** -/
theorem IsAccounted.step (h : IsAccounted tasks initial holders workload) (move : Move ι) :
    ∃ holders, IsAccounted tasks initial holders (workload.step move) := by
  cases move with
  | visit now call hcall =>
    refine ⟨holders, (Registry.answer_change now call _).isOrdered h.isOrdered, h.custody, ?_⟩
    show Ledger _ _ ((Registry.answer now call).run workload.registry).2.machines _
    rw [Registry.machines_answer_of_keeps now hcall]
    exact h.ledger
  | proceed i circumstances =>
    have hcustody := h.custody i
    cases hprogress : workload.progress i with
    | done result =>
      rw [step_of_done hprogress]
      exact ⟨holders, h⟩
    | ask query next =>
      rw [step_of_ask hprogress]
      rw [hprogress] at hcustody
      obtain ⟨held, hnext, hstep⟩ :=
        hcustody.handover h.isOrdered h.ledger.mem_of_holds circumstances
      refine ⟨Function.update holders i held, isOrdered_answer h.isOrdered _ _, fun j => ?_,
        h.ledger.handover hstep⟩
      show Custody _ _ _ (Function.update workload.progress i (next _) j)
      by_cases hji : j = i
      · subst hji
        rw [Function.update_self, Function.update_self]
        exact hnext
      · rw [Function.update_of_ne hji, Function.update_of_ne hji]
        exact h.custody j

/-- **A run leaves all machines accounted for.** -/
theorem IsAccounted.after (h : IsAccounted tasks initial holders workload)
    (moves : List (Move ι)) :
    ∃ holders, IsAccounted tasks initial holders (workload.after moves) := by
  -- Induction on the moves left, with the accounts as the invariant.
  induction moves generalizing holders workload with
  | nil => exact ⟨holders, h⟩
  | cons move moves ih =>
    obtain ⟨changed, hstep⟩ := h.step move
    exact ih hstep

/-- **Concurrent deployments lose nothing and duplicate nothing.** When all have returned, a machine
is there when it was there at first or exactly one deployment of it succeeded. No two deployments of
one machine succeed. A machine that was there at first is there at any time, and every deployment of
it fails. -/
theorem machines_after (tasks : ι → DeployTask σ) (initial : Registry)
    (hordered : Fields.IsOrdered initial) (moves : List (Move ι))
    (results : ι → Except Failure Deployed)
    (hresults : ∀ i, ((start tasks initial).after moves).progress i = .done (results i)) :
    (∀ target, target ∈ ((start tasks initial).after moves).registry.machines ↔
        target ∈ initial.machines ∨ ∃! i, (tasks i).target = target ∧ (results i).isOk = true) ∧
      (∀ i j, (tasks i).target = (tasks j).target → (results i).isOk = true →
        (results j).isOk = true → i = j) ∧
      ∀ target ∈ initial.machines,
        (∀ i, (tasks i).target = target → ∃ failure, results i = .error failure) ∧
          ∀ done, done <+: moves →
            target ∈ ((start tasks initial).after done).registry.machines := by
  obtain ⟨holders, hall⟩ := (isAccounted_start tasks hordered).after moves
  have hholds : ∀ i, holders i = (results i).isOk := fun i => hall.holds_eq (hresults i)
  have hunique : ∀ i j, (tasks i).target = (tasks j).target → (results i).isOk = true →
      (results j).isOk = true → i = j := by
    intro i j htargets hi hj
    exact hall.ledger.unique i j (hholds i ▸ hi) (hholds j ▸ hj) htargets
  refine ⟨fun target => ?_, hunique, fun target hinitial => ⟨fun i htarget => ?_,
    fun done _ => ?_⟩⟩
  -- who has custody of the machine in the end is the only one whose deployment succeeded
  · rw [hall.ledger.mem_iff]
    refine or_congr_right ⟨?_, ?_⟩
    · rintro ⟨i, hi, rfl⟩
      have hok : (results i).isOk = true := hholds i ▸ hi
      exact ⟨i, ⟨rfl, hok⟩, fun j hj => hunique j i hj.1 hj.2 hok⟩
    · rintro ⟨i, ⟨rfl, hok⟩, -⟩
      exact ⟨i, (hholds i).trans hok, rfl⟩
  -- nobody takes custody of a machine that was there at first
  · cases hresult : results i with
    | error failure => exact ⟨failure, rfl⟩
    | ok deployed =>
      have hi : holders i = true := by
        rw [hholds i, hresult]
        rfl
      exact absurd (htarget ▸ hinitial) (hall.ledger.fresh i hi)
  · obtain ⟨holders, hdone⟩ := (isAccounted_start tasks hordered).after done
    exact (hdone.ledger.mem_iff target).mpr (.inl hinitial)

/-! ## Two deployments of one name -/

/-- The raw template of a machine with a service. -/
def rawWebserver : Json :=
  .object [("metadata", .object [("name", .text "webserver")]),
    ("objects", .array [.object [("apiVersion", .text "v1"), ("kind", .text "Service"),
      ("metadata", .object [("name", .text "http")])]])]

/-- A deployment of a webserver in a datacenter without ceilings. -/
def webserverTask (machineName : String) : DeployTask UInt32 where
  source := Congruential.source
  state := 0
  request := ⟨"webserver", machineName, "", none, "acme"⟩
  datacenter := ⟨"acme", ⟨"acme", "acme-dev", ⟨0, 0, 0⟩, none⟩⟩

/-- Two names that become the same label, and one that becomes the id of a machine that is there. -/
def collidingTasks : Fin 3 → DeployTask UInt32
  | 0 => webserverTask "Web"
  | 1 => webserverTask "DB"
  | 2 => webserverTask "web!"

/-- A registry with one machine. -/
def singleRegistry : Registry :=
  Fields.insert [] "acme-dev/db" (.fresh (.new "db" "db" 1 "2Gi" "30Gi") "acme" "fedora"
    "2024-05-01T11:00:00Z")

/-- The first deployment creates its machine, which another client starts. The service is not
accepted, so that the machine is deleted, and only then created by the last deployment. -/
def collidingMoves : List (Move (Fin 3)) :=
  let meets submitted : Circumstances := ⟨"2024-05-01T12:00:00Z", .ok rawWebserver, submitted⟩
  [.proceed 0 (meets (.ok ())), .proceed 2 (meets (.ok ())), .proceed 0 (meets (.ok ())),
    .visit "2024-05-01T12:00:00Z" (.start "web" "acme-dev") rfl, .proceed 1 (meets (.ok ())),
    .proceed 0 (meets (.error .unreadable)), .proceed 1 (meets (.ok ())),
    .proceed 0 (meets (.ok ())), .proceed 2 (meets (.ok ())), .proceed 2 (meets (.ok ()))]

theorem machines_after_collidingMoves :
    Fields.IsOrdered singleRegistry ∧
      (∃ results : Fin 3 → Except Failure Deployed,
        (∀ i, ((start collidingTasks singleRegistry).after collidingMoves).progress i =
          .done (results i)) ∧ ∀ i, (results i).isOk = decide (i = 2)) ∧
      ("acme-dev", "web") ∉ singleRegistry.machines ∧
      ("acme-dev", "web") ∈
        ((start collidingTasks singleRegistry).after collidingMoves).registry.machines := by
  have hordered : Fields.IsOrdered singleRegistry := Fields.isOrdered_nil.insert
  have hreturned : ∀ i,
      (((start collidingTasks singleRegistry).after collidingMoves).progress i).result?.map
        Except.isOk = some (decide (i = 2)) := by decide +kernel
  choose results hresults hok using fun i => Option.map_eq_some_iff.mp (hreturned i)
  have hdone := fun i => Interaction.result?_eq_some_iff.mp (hresults i)
  obtain ⟨hmachines, -, hinitial⟩ :=
    machines_after collidingTasks singleRegistry hordered collidingMoves results hdone
  -- Only the last deployment succeeded, and it was for the machine of that name.
  have htarget : (collidingTasks 2).target = ("acme-dev", "web") := by decide +kernel
  have hnew : ("acme-dev", "web") ∉ singleRegistry.machines := by
    intro hmem
    obtain ⟨hfails, -⟩ := hinitial _ hmem
    obtain ⟨failure, hfailure⟩ := hfails 2 htarget
    have := hok 2
    rw [hfailure] at this
    cases this
  refine ⟨hordered, ⟨results, hdone, hok⟩, hnew, (hmachines _).mpr (.inr ⟨2, ⟨htarget, hok 2⟩, ?_⟩)⟩
  rintro i ⟨-, hi⟩
  exact of_decide_eq_true ((hok i).symm.trans hi)

end Workload

end VmProvisioning
