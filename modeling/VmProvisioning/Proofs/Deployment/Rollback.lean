import Mathlib.Data.List.Induction
import VmProvisioning.Proofs.Deployment.Concurrency

/-!
# Which machine an aborted deployment deletes

An aborted deployment deletes its machine by name, in a step of its own. When other clients delete
machines too, the name may be free by then, and even be taken again. What the deployment deletes is
its own machine as long as nobody else has deleted that before; otherwise it is whatever machine
has the name, also one of another deployment.

## Main definitions

* `Turn`, `Workload.turn`: what happens to deployments when other clients may make any call
* `Workload.cleanup?`: the machine that a deployment is about to delete
* `Chronicle`, `Chronicle.after`: deployments in progress, and who made the machines that are there
* `Effect`: what a turn does to the machines and to the tenure of the deployments
* `Chronicle.IsFreed`: the machine of a deployment was deleted by somebody else

## Main results

* `Workload.effect_turn`: what a turn does
* `Chronicle.IsAttributed.next`, `Chronicle.isAttributed_after`: what deployments have made and
  still hold is theirs, or was freed
* `Chronicle.exists_asksToDelete_of_isFreed`: a machine is only freed where another client deletes
  one of its name
* `Chronicle.cleanup_own_iff_not_isFreed`: what an aborted deployment deletes
* `Chronicle.exists_cleanup_of_other`: a deployment that deletes the machine of another one
-/

namespace VmProvisioning

variable {ι σ : Type}

/-! ## Turns -/

/-- **What happens next** when other clients may do anything: a deployment takes a step, or another
client makes a call. -/
inductive Turn (ι : Type) where
  | proceed (i : ι) (circumstances : Circumstances)
  | visit (now : String) (call : Call)

namespace Turn

/-- The deployment that takes a step, unless it is another client's turn. -/
def deployment? : Turn ι → Option ι
  | proceed i _ => some i
  | visit .. => none

/-- Whether another client asks for the deletion of a machine. -/
def asksToDelete (target : String × String) : Turn ι → Bool
  | visit _ (.delete id ns) => (ns, id) == target
  | _ => false

end Turn

/-- Whether a registry holds a machine. -/
def Registry.holds (registry : Registry) (target : String × String) : Bool :=
  (registry.find target.2 target.1).isOk

theorem Registry.holds_iff {registry : Registry} {target : String × String} :
    registry.holds target = true ↔ target ∈ registry.machines := by
  show (registry.find target.2 target.1).isOk = true ↔ ∃ registered, _ = Except.ok registered
  cases registry.find target.2 target.1 with
  | error failure => simp [Except.isOk, Except.toBool]
  | ok registered => simp [Except.isOk, Except.toBool]

namespace Workload

/-- **The machine that a deployment is about to delete**, as it was aborted. -/
def cleanup? (workload : Workload ι) (i : ι) : Option (String × String) :=
  match workload.progress i with
  | .ask (.call (.delete id ns)) _ => some (ns, id)
  | _ => none

variable [DecidableEq ι]

/-- The workload after a turn. -/
def turn (workload : Workload ι) : Turn ι → Workload ι
  | .proceed i circumstances => workload.step (.proceed i circumstances)
  | .visit now call =>
    { workload with registry := ((Registry.answer now call).run workload.registry).2 }

end Workload

/-! ## Who made what -/

/-- **Deployments in progress, and who made the machines that are there**: for every machine, the
deployment that created it, unless it was there at first or made by another client. -/
structure Chronicle (ι : Type) where
  workload : Workload ι
  maker? : String × String → Option ι

namespace Chronicle

variable [DecidableEq ι]

/-- Deployments that have not begun have made nothing. -/
def start (tasks : ι → DeployTask σ) (registry : Registry) : Chronicle ι :=
  ⟨.start tasks registry, fun _ => none⟩

/-- After a turn, a machine that has stayed has the same maker as before, and one that is new was
made by whose turn it was. -/
def next (chronicle : Chronicle ι) (turn : Turn ι) : Chronicle ι :=
  let workload := chronicle.workload.turn turn
  { workload
    maker? := fun target =>
      if workload.registry.holds target then
        if chronicle.workload.registry.holds target then chronicle.maker? target
        else turn.deployment?
      else none }

/-- **The chronicle after a sequence of turns.** -/
def after (chronicle : Chronicle ι) (turns : List (Turn ι)) : Chronicle ι :=
  turns.foldl next chronicle

theorem after_append (chronicle : Chronicle ι) (first second : List (Turn ι)) :
    chronicle.after (first ++ second) = (chronicle.after first).after second :=
  List.foldl_append

/-- **The machine of a deployment was freed**: somebody else deleted it after the deployment had
created it, another client or another aborted deployment. -/
def IsFreed (tasks : ι → DeployTask σ) (initial : Registry) (turns : List (Turn ι)) (i : ι) :
    Prop :=
  ∃ done turn rest, turns = done ++ turn :: rest ∧
    ((start tasks initial).after done).maker? (tasks i).target = some i ∧
    (tasks i).target ∉
      ((start tasks initial).after (done ++ [turn])).workload.registry.machines ∧
    (turn.asksToDelete (tasks i).target = true ∨ ∃ j, j ≠ i ∧ turn.deployment? = some j ∧
      ((start tasks initial).after done).workload.cleanup? j = some (tasks i).target)

end Chronicle

/-! ## What a turn does -/

section Effect

variable [DecidableEq ι]

/-- **What a turn does**, by the tenure of the deployments: the machines stay, or one is made or
deleted, by a deployment or by another client. -/
inductive Effect (targets : ι → String × String) (workload : Workload ι) (tenures : ι → Tenure) :
    Turn ι → (ι → Tenure) → Set (String × String) → Prop
  | none {turn : Turn ι} : Effect targets workload tenures turn tenures workload.registry.machines
  | create {i : ι} {circumstances : Circumstances} (hpending : tenures i = .pending)
      (hnew : targets i ∉ workload.registry.machines) :
    Effect targets workload tenures (.proceed i circumstances)
      (Function.update tenures i .held) (insert (targets i) workload.registry.machines)
  | delete {i : ι} {circumstances : Circumstances} (hheld : tenures i = .held)
      (hcleanup : workload.cleanup? i = some (targets i)) :
    Effect targets workload tenures (.proceed i circumstances)
      (Function.update tenures i .over) {other ∈ workload.registry.machines | other ≠ targets i}
  | enter {now : String} {call : Call} {target : String × String}
      (hnew : target ∉ workload.registry.machines) :
    Effect targets workload tenures (.visit now call) tenures
      (insert target workload.registry.machines)
  | leave {now id ns : String} :
    Effect targets workload tenures (.visit now (.delete id ns)) tenures
      {other ∈ workload.registry.machines | other ≠ (ns, id)}

end Effect

/-- **Whether the conduct of a deployment lets it end with a result.** -/
abbrev DeployTask.IsEnd (tenure : Tenure) (result : Except Failure Deployed) : Prop :=
  result.isOk = tenure.isHeld

namespace Workload

variable [DecidableEq ι] {tasks : ι → DeployTask σ} {tenures : ι → Tenure}
  {workload : Workload ι}

/-- What another client's call does. -/
theorem effect_visit (targets : ι → String × String) (tenures : ι → Tenure)
    (hordered : Fields.IsOrdered workload.registry) (now : String) (call : Call) :
    Effect targets workload tenures (.visit now call) tenures
      ((Registry.answer now call).run workload.registry).2.machines := by
  cases call with
  | create machine datacenter template base =>
    show Effect _ _ _ _ _ (Registry.settle _ _).2.machines
    cases hcreate : workload.registry.create machine datacenter template.id now with
    | error failure => exact .none
    | ok changed =>
      obtain ⟨hnew, hmachines⟩ := Registry.machines_create hcreate
      show Effect _ _ _ _ _ changed.machines
      rw [hmachines]
      exact .enter hnew
  | delete id ns =>
    show Effect _ _ _ _ _ (Registry.settle _ _).2.machines
    rw [Registry.machines_settle_delete id ns hordered]
    exact .leave
  | _ =>
    rw [Registry.machines_answer_of_keeps now rfl]
    exact .none

/-- What a deployment does that asks for something. -/
theorem effect_ask (targets : ι → String × String) {IsEnd : Tenure → Except Failure Deployed → Prop}
    {i : ι} {query : DeployQuery} {next : query.Reply → Progress (Except Failure Deployed)}
    (hprogress : workload.progress i = .ask query next)
    (hconduct : Conduct (targets i) IsEnd (tenures i) (.ask query next))
    (hordered : Fields.IsOrdered workload.registry) (circumstances : Circumstances) :
    ∃ tenure, Conduct (targets i) IsEnd tenure
        (next ((circumstances.answer query).run workload.registry).1) ∧
      Effect targets workload tenures (.proceed i circumstances)
        (Function.update tenures i tenure)
        ((circumstances.answer query).run workload.registry).2.machines := by
  have hsame : Effect targets workload tenures (.proceed i circumstances)
      (Function.update tenures i (tenures i)) workload.registry.machines := by
    rw [Function.update_eq_self]
    exact .none
  generalize htenure : tenures i = tenure at hconduct hsame
  cases hconduct with
  | fetch h => exact ⟨_, h _, hsame⟩
  | submit h => exact ⟨_, h _, hsame⟩
  | @create machine datacenter template base _ htarget h =>
    refine ⟨_, h _, ?_⟩
    show Effect _ _ _ _ (Function.update _ _ (.ofCreation (Registry.settle _ _).1))
      (Registry.settle _ _).2.machines
    cases hcreate : workload.registry.create machine datacenter template.id circumstances.now with
    | error failure => exact hsame
    | ok changed =>
      obtain ⟨hnew, hmachines⟩ := Registry.machines_create hcreate
      show Effect _ _ _ _ (Function.update _ _ .held) changed.machines
      rw [hmachines, htarget]
      exact .create htenure (htarget ▸ hnew)
  | @delete id ns _ htarget h =>
    refine ⟨.over, h _, ?_⟩
    show Effect _ _ _ _ _ (Registry.settle _ _).2.machines
    rw [Registry.machines_settle_delete id ns hordered, htarget]
    refine .delete htenure ?_
    rw [← htarget, cleanup?, hprogress]

/-- **What a turn does**, and how every deployment goes on. -/
theorem effect_turn (hordered : Fields.IsOrdered workload.registry)
    (hconduct : ∀ i, Conduct (tasks i).target DeployTask.IsEnd (tenures i) (workload.progress i))
    (turn : Turn ι) :
    ∃ changed, (∀ i, Conduct (tasks i).target DeployTask.IsEnd (changed i)
        ((workload.turn turn).progress i)) ∧
      Effect (fun i => (tasks i).target) workload tenures turn changed
        (workload.turn turn).registry.machines := by
  cases turn with
  | visit now call => exact ⟨tenures, hconduct, effect_visit _ tenures hordered now call⟩
  | proceed i circumstances =>
    rw [Workload.turn]
    cases hprogress : workload.progress i with
    | done result =>
      rw [step_of_done hprogress]
      exact ⟨tenures, hconduct, .none⟩
    | ask query next =>
      obtain ⟨tenure, hnext, heffect⟩ :=
        effect_ask (fun i => (tasks i).target) hprogress (hprogress ▸ hconduct i) hordered
          circumstances
      rw [step_of_ask hprogress]
      refine ⟨_, fun j => ?_, heffect⟩
      show Conduct _ _ _ (Function.update workload.progress i (next _) j)
      by_cases hji : j = i
      · subst hji
        rw [Function.update_self, Function.update_self]
        exact hnext
      · rw [Function.update_of_ne hji, Function.update_of_ne hji]
        exact hconduct j

/-- The registry stays ordered in every turn. -/
theorem isOrdered_turn (hordered : Fields.IsOrdered workload.registry) (turn : Turn ι) :
    Fields.IsOrdered (workload.turn turn).registry := by
  cases turn with
  | visit now call => exact (Registry.answer_change now call _).isOrdered hordered
  | proceed i circumstances =>
    rw [Workload.turn]
    cases hprogress : workload.progress i with
    | done result =>
      rw [step_of_done hprogress]
      exact hordered
    | ask query next =>
      rw [step_of_ask hprogress]
      exact isOrdered_answer hordered circumstances query

end Workload

/-! ## Makers -/

namespace Effect

variable [DecidableEq ι] {targets : ι → String × String} {workload : Workload ι}
  {tenures changed : ι → Tenure} {turn : Turn ι} {machines : Set (String × String)}
  {target : String × String} {i : ι}

/-- A deployment that has created its machine does not create it again. -/
theorem ne_pending (h : Effect targets workload tenures turn changed machines)
    (hi : tenures i ≠ .pending) : changed i ≠ .pending := by
  cases h with
  | @create j =>
    by_cases hij : i = j
    · simp [hij]
    · simpa [hij] using hi
  | @delete j =>
    by_cases hij : i = j
    · simp [hij]
    · simpa [hij] using hi
  | _ => exact hi

/-- A deployment holds a machine because it did before, or because it has just made it. -/
theorem held_or_made (h : Effect targets workload tenures turn changed machines)
    (hi : changed i = .held) :
    tenures i = .held ∨ turn.deployment? = some i ∧
      targets i ∉ workload.registry.machines ∧ targets i ∈ machines := by
  cases h with
  | @create j circumstances hpending hnew =>
    by_cases hij : i = j
    · subst hij
      exact .inr ⟨rfl, hnew, Set.mem_insert _ _⟩
    · rw [Function.update_of_ne hij] at hi
      exact .inl hi
  | @delete j =>
    by_cases hij : i = j
    · subst hij
      rw [Function.update_self] at hi
      cases hi
    · rw [Function.update_of_ne hij] at hi
      exact .inl hi
  | _ => exact .inl hi

/-- A deployment holds its machine as long as that is there. -/
theorem held_of_mem (h : Effect targets workload tenures turn changed machines)
    (hi : tenures i = .held) (hmem : targets i ∈ machines) : changed i = .held := by
  cases h with
  | @create j =>
    by_cases hij : i = j
    · simp [hij]
    · simpa [hij] using hi
  | @delete j =>
    by_cases hij : i = j
    · subst hij
      exact absurd rfl hmem.2
    · simpa [hij] using hi
  | _ => exact hi

/-- What appears in the turn of a deployment is its machine. -/
theorem held_of_new (h : Effect targets workload tenures turn changed machines)
    (hturn : turn.deployment? = some i) (hnew : target ∉ workload.registry.machines)
    (hmem : target ∈ machines) : targets i = target ∧ tenures i = .pending ∧ changed i = .held := by
  cases h with
  | none => exact absurd hmem hnew
  | create hpending =>
    cases hturn
    rcases Set.mem_insert_iff.mp hmem with rfl | hold
    · exact ⟨rfl, hpending, Function.update_self _ _ _⟩
    · exact absurd hold hnew
  | delete => exact absurd hmem.1 hnew
  | enter => cases hturn
  | leave => cases hturn

/-- What disappears was deleted by another client, or by a deployment that was to delete it. -/
theorem deleted_of_gone (h : Effect targets workload tenures turn changed machines)
    (hold : target ∈ workload.registry.machines) (hgone : target ∉ machines) :
    turn.asksToDelete target = true ∨ ∃ j, turn.deployment? = some j ∧
      workload.cleanup? j = some target ∧ targets j = target ∧ changed j = .over := by
  cases h with
  | none => exact absurd hold hgone
  | create => exact absurd (Set.mem_insert_of_mem _ hold) hgone
  | @delete j _ _ hcleanup =>
    have htarget : targets j = target := by
      by_contra hne
      exact hgone ⟨hold, Ne.symm hne⟩
    exact .inr ⟨j, rfl, htarget ▸ hcleanup, htarget, Function.update_self _ _ _⟩
  | enter => exact absurd (Set.mem_insert_of_mem _ hold) hgone
  | @leave _ ns id =>
    refine .inl (beq_iff_eq.mpr ?_)
    by_contra hne
    exact hgone ⟨hold, Ne.symm hne⟩

end Effect

namespace Chronicle

variable {tasks : ι → DeployTask σ} {initial : Registry} {tenures : ι → Tenure}
  {chronicle : Chronicle ι} {target : String × String} {i : ι}

/-- **What deployments have made is theirs**: a machine that a deployment has made is its own and
there, and the deployment has not asked for its deletion. -/
structure IsAttributed (tasks : ι → DeployTask σ) (tenures : ι → Tenure)
    (chronicle : Chronicle ι) : Prop where
  isOrdered : Fields.IsOrdered chronicle.workload.registry
  conduct : ∀ i, Conduct (tasks i).target DeployTask.IsEnd (tenures i)
    (chronicle.workload.progress i)
  made : ∀ target i, chronicle.maker? target = some i →
    target ∈ chronicle.workload.registry.machines ∧ (tasks i).target = target ∧ tenures i = .held

theorem isAttributed_start (tasks : ι → DeployTask σ) (hordered : Fields.IsOrdered initial) :
    IsAttributed tasks (fun _ => .pending) (start tasks initial) where
  isOrdered := hordered
  conduct i := (tasks i).conduct
  made _ _ h := by cases h

/-- A deployment that is about to delete a machine holds it, and it is its own. -/
theorem IsAttributed.of_cleanup (h : IsAttributed tasks tenures chronicle)
    (hcleanup : chronicle.workload.cleanup? i = some target) :
    (tasks i).target = target ∧ tenures i = .held := by
  have hconduct := h.conduct i
  rw [Workload.cleanup?] at hcleanup
  split at hcleanup
  · next id ns next hprogress =>
    cases hcleanup
    rw [hprogress] at hconduct
    generalize tenures i = tenure at hconduct ⊢
    cases hconduct with
    | delete htarget => exact ⟨htarget.symm, rfl⟩
  · cases hcleanup

variable [DecidableEq ι]

/-- Who made a machine that is there after a turn. -/
theorem maker?_next_eq_some_iff {turn : Turn ι} :
    (chronicle.next turn).maker? target = some i ↔
      target ∈ (chronicle.next turn).workload.registry.machines ∧
        (target ∈ chronicle.workload.registry.machines ∧ chronicle.maker? target = some i ∨
          target ∉ chronicle.workload.registry.machines ∧ turn.deployment? = some i) := by
  have hbefore : chronicle.workload.registry.holds target = true ↔ _ := Registry.holds_iff
  rw [← Registry.holds_iff, ← hbefore]
  show (if (chronicle.next turn).workload.registry.holds target then
    if chronicle.workload.registry.holds target then _ else _ else none) = _ ↔ _
  split
  · next hafter =>
    split
    · next hstayed => simp [hafter, hstayed]
    · next hnew => simp [hafter, hnew]
  · next hafter => simp [hafter]

/-- **A turn leaves to the deployments what they have made.** -/
theorem IsAttributed.next (h : IsAttributed tasks tenures chronicle) (turn : Turn ι) :
    ∃ changed, IsAttributed tasks changed (chronicle.next turn) ∧
      Effect (fun i => (tasks i).target) chronicle.workload tenures turn changed
        (chronicle.next turn).workload.registry.machines := by
  obtain ⟨changed, hconduct, heffect⟩ := Workload.effect_turn h.isOrdered h.conduct turn
  refine ⟨changed, ⟨Workload.isOrdered_turn h.isOrdered turn, hconduct, ?_⟩, heffect⟩
  intro target i hmaker
  obtain ⟨hmem, ⟨hold, hbefore⟩ | ⟨hnew, hturn⟩⟩ := maker?_next_eq_some_iff.mp hmaker
  -- a machine that has stayed is still held by who made it
  · obtain ⟨-, rfl, hheld⟩ := h.made target i hbefore
    exact ⟨hmem, rfl, heffect.held_of_mem hheld hmem⟩
  -- a new machine is held by whose turn it was
  · obtain ⟨htarget, -, hheld⟩ := heffect.held_of_new hturn hnew hmem
    exact ⟨hmem, htarget, hheld⟩

/-- A deployment that has lost its machine never gets it back. -/
theorem IsAttributed.maker?_after_ne (h : IsAttributed tasks tenures chronicle)
    (hi : tenures i ≠ .pending) (hlost : chronicle.maker? (tasks i).target ≠ some i)
    (turns : List (Turn ι)) : (chronicle.after turns).maker? (tasks i).target ≠ some i := by
  -- Induction on the turns left: the deployment does not create its machine again.
  induction turns generalizing tenures chronicle with
  | nil => exact hlost
  | cons turn turns ih =>
    obtain ⟨changed, hnext, heffect⟩ := h.next turn
    refine ih hnext (heffect.ne_pending hi) fun hmaker => ?_
    obtain ⟨hmem, ⟨-, hbefore⟩ | ⟨hnew, hturn⟩⟩ := maker?_next_eq_some_iff.mp hmaker
    · exact hlost hbefore
    · obtain ⟨-, hpending, -⟩ := heffect.held_of_new hturn hnew hmem
      exact hi hpending

theorem IsFreed.append {turns : List (Turn ι)} (h : IsFreed tasks initial turns i)
    (more : List (Turn ι)) : IsFreed tasks initial (turns ++ more) i := by
  obtain ⟨done, turn, rest, rfl, hfreed⟩ := h
  exact ⟨done, turn, rest ++ more, by simp, hfreed⟩

/-- **A deployment has made the machine that it holds, or the machine was freed.** -/
theorem isAttributed_after (tasks : ι → DeployTask σ) (hordered : Fields.IsOrdered initial)
    (turns : List (Turn ι)) :
    ∃ tenures, IsAttributed tasks tenures ((start tasks initial).after turns) ∧
      ∀ i, tenures i = .held →
        ((start tasks initial).after turns).maker? (tasks i).target = some i ∨
          IsFreed tasks initial turns i := by
  -- Induction on the turns so far, along what each of them does.
  induction turns using List.reverseRecOn with
  | nil => exact ⟨_, isAttributed_start tasks hordered, fun _ h => by cases h⟩
  | append_singleton turns turn ih =>
    obtain ⟨tenures, h, hheld⟩ := ih
    obtain ⟨changed, hnext, heffect⟩ := h.next turn
    have hafter : (start tasks initial).after (turns ++ [turn]) =
        ((start tasks initial).after turns).next turn := after_append _ _ _
    refine ⟨changed, hafter ▸ hnext, fun i hi => ?_⟩
    rw [hafter]
    rcases heffect.held_or_made hi with hbefore | ⟨hturn, hnew, hmem⟩
    -- the deployment has held the machine before this turn ...
    · rcases hheld i hbefore with hmaker | hfreed
      · obtain ⟨hold, -, -⟩ := h.made _ _ hmaker
        by_cases hmem : (tasks i).target ∈
            (((start tasks initial).after turns).next turn).workload.registry.machines
        · exact .inl (maker?_next_eq_some_iff.mpr ⟨hmem, .inl ⟨hold, hmaker⟩⟩)
        -- ... and loses it now, but not by its own doing
        · refine .inr ⟨turns, turn, [], rfl, hmaker, hafter ▸ hmem, ?_⟩
          rcases heffect.deleted_of_gone hold hmem with hasks | ⟨j, hj, hcleanup, -, hover⟩
          · exact .inl hasks
          · refine .inr ⟨j, ?_, hj, hcleanup⟩
            rintro rfl
            rw [hi] at hover
            cases hover
      · exact .inr (hfreed.append _)
    -- the deployment makes the machine in this turn
    · exact .inl (maker?_next_eq_some_iff.mpr ⟨hmem, .inr ⟨hnew, hturn⟩⟩)

/-- **A machine is only freed where another client deletes one of its name.** -/
theorem exists_asksToDelete_of_isFreed (hordered : Fields.IsOrdered initial)
    {turns : List (Turn ι)} (h : IsFreed tasks initial turns i) :
    ∃ turn ∈ turns, turn.asksToDelete (tasks i).target = true := by
  -- Induction on the number of turns: a deployment that frees the machine of another one has
  -- lost its own before.
  induction hlength : turns.length using Nat.strong_induction_on generalizing turns i with
  | _ length ih =>
    obtain ⟨done, turn, rest, rfl, hmaker, -, hasks | ⟨j, hji, -, hcleanup⟩⟩ := h
    · exact ⟨turn, by simp, hasks⟩
    · obtain ⟨tenures, hdone, hheld⟩ := isAttributed_after tasks hordered done
      obtain ⟨htarget, hj⟩ := hdone.of_cleanup hcleanup
      rcases hheld j hj with hmine | hfreed
      · rw [htarget, hmaker] at hmine
        exact absurd (Option.some.inj hmine).symm hji
      · obtain ⟨other, hother, hasks⟩ :=
          ih done.length (by simp [← hlength]) hfreed rfl
        exact ⟨other, List.mem_append_left _ hother, htarget ▸ hasks⟩

/-- A deployment that is about to delete a machine removes it if it is there, and no other one. -/
theorem machines_next_of_cleanup (hordered : Fields.IsOrdered chronicle.workload.registry)
    (hcleanup : chronicle.workload.cleanup? i = some target) (circumstances : Circumstances) :
    (chronicle.next (.proceed i circumstances)).workload.registry.machines =
      {other ∈ chronicle.workload.registry.machines | other ≠ target} := by
  rw [Workload.cleanup?] at hcleanup
  split at hcleanup
  · next id ns next hprogress =>
    cases hcleanup
    show (chronicle.workload.step (.proceed i circumstances)).registry.machines = _
    rw [Workload.step_of_ask hprogress]
    exact Registry.machines_settle_delete id ns hordered
  · cases hcleanup

/-- **What an aborted deployment deletes.** The machine has the name that the deployment is for, and
no other one is deleted. It is the one that the deployment has made, unless somebody else deleted
that before; nobody does so unless another client deletes a machine of that name. -/
theorem cleanup_own_iff_not_isFreed (tasks : ι → DeployTask σ) (initial : Registry)
    (hordered : Fields.IsOrdered initial) (turns : List (Turn ι)) (i : ι)
    (target : String × String)
    (hcleanup : ((start tasks initial).after turns).workload.cleanup? i = some target) :
    (tasks i).target = target ∧
      (∀ circumstances, (((start tasks initial).after turns).next
          (.proceed i circumstances)).workload.registry.machines =
        {other ∈ ((start tasks initial).after turns).workload.registry.machines |
          other ≠ target}) ∧
      (((start tasks initial).after turns).maker? target = some i ↔
        ¬IsFreed tasks initial turns i) ∧
      ((∀ turn ∈ turns, turn.asksToDelete target = false) →
        ((start tasks initial).after turns).maker? target = some i) := by
  obtain ⟨tenures, h, hheld⟩ := isAttributed_after tasks hordered turns
  obtain ⟨rfl, hi⟩ := h.of_cleanup hcleanup
  have hmaker : ((start tasks initial).after turns).maker? (tasks i).target = some i ↔
      ¬IsFreed tasks initial turns i := by
    constructor
    · rintro hmaker ⟨done, turn, rest, rfl, hbefore, hgone, -⟩
      -- The deployment has made its machine, and lost it in the turn; it does not get it back.
      obtain ⟨before, hdone, -⟩ := isAttributed_after tasks hordered done
      obtain ⟨-, -, hbefore⟩ := hdone.made _ _ hbefore
      obtain ⟨changed, hnext, heffect⟩ := hdone.next turn
      rw [after_append] at hmaker hgone
      have hlost : (((start tasks initial).after done).next turn).maker? (tasks i).target ≠
          some i := fun hstill => hgone (maker?_next_eq_some_iff.mp hstill).1
      exact hnext.maker?_after_ne (heffect.ne_pending (by simp [hbefore])) hlost rest hmaker
    · exact (hheld i hi).resolve_right
  refine ⟨rfl, machines_next_of_cleanup h.isOrdered hcleanup, hmaker, fun hturns => ?_⟩
  refine hmaker.mpr fun hfreed => ?_
  obtain ⟨turn, hturn, hasks⟩ := exists_asksToDelete_of_isFreed hordered hfreed
  rw [hturns turn hturn] at hasks
  cases hasks

/-! ## A name that is freed and taken again -/

/-- What a step of a deployment of the webserver meets. -/
def meets (submitted : Except Failure Unit) : Circumstances :=
  ⟨"2024-05-01T12:00:00Z", .ok Workload.rawWebserver, submitted⟩

/-- A deployment creates its machine, and its service is not accepted. Another client starts the
machine in between. -/
def ownName (i : ι) : List (Turn ι) :=
  [.proceed i (meets (.ok ())), .proceed i (meets (.ok ())),
    .visit "2024-05-01T12:00:00Z" (.start "web" "acme-dev"),
    .proceed i (meets (.error .unreadable))]

/-- A deployment creates its machine, which another client deletes. Another deployment creates a
machine of the same name and succeeds. Only then the service of the first one is not accepted. -/
def reusedName (i j : ι) : List (Turn ι) :=
  [.proceed i (meets (.ok ())), .proceed i (meets (.ok ())),
    .visit "2024-05-01T12:00:00Z" (.delete "web" "acme-dev"), .proceed j (meets (.ok ())),
    .proceed j (meets (.ok ())), .proceed j (meets (.ok ())),
    .proceed i (meets (.error .unreadable))]

/-- Three deployments that collide, of which the last one is for the name of the first one. -/
def colliding (turns : List (Turn (Fin 3))) : Chronicle (Fin 3) :=
  (start Workload.collidingTasks Workload.singleRegistry).after turns

/-- The first deployment deletes its own machine, or has lost it. -/
theorem cleanup_ownName_and_reusedName :
    Fields.IsOrdered Workload.singleRegistry ∧
      (colliding (ownName 0)).workload.cleanup? 0 = some ("acme-dev", "web") ∧
      (∀ turn ∈ ownName (0 : Fin 3), turn.asksToDelete ("acme-dev", "web") = false) ∧
      (colliding (ownName 0)).maker? ("acme-dev", "web") = some 0 ∧
      (colliding (reusedName 0 2)).workload.cleanup? 0 = some ("acme-dev", "web") ∧
      IsFreed Workload.collidingTasks Workload.singleRegistry (reusedName 0 2) 0 := by
  have hordered : Fields.IsOrdered Workload.singleRegistry := Fields.isOrdered_nil.insert
  have hown : (colliding (ownName 0)).workload.cleanup? 0 = some ("acme-dev", "web") := by
    decide +kernel
  have hnone : ∀ turn ∈ ownName (0 : Fin 3), turn.asksToDelete ("acme-dev", "web") = false := by
    decide +kernel
  obtain ⟨-, -, -, hkeeps⟩ := cleanup_own_iff_not_isFreed Workload.collidingTasks
    Workload.singleRegistry hordered (ownName 0) 0 ("acme-dev", "web") hown
  have hreused : (colliding (reusedName 0 2)).workload.cleanup? 0 = some ("acme-dev", "web") := by
    decide +kernel
  obtain ⟨-, -, hmaker, -⟩ := cleanup_own_iff_not_isFreed Workload.collidingTasks
    Workload.singleRegistry hordered (reusedName 0 2) 0 ("acme-dev", "web") hreused
  have hother : (colliding (reusedName 0 2)).maker? ("acme-dev", "web") ≠ some 0 := by
    decide +kernel
  exact ⟨hordered, hown, hnone, hkeeps hnone, hreused,
    not_not.mp fun hkept => hother (hmaker.mpr hkept)⟩

/-- **A deployment that deletes the machine of another one.** The last deployment has succeeded, and
its machine is what the first one deletes. -/
theorem exists_cleanup_of_other :
    ∃ registry turns, Fields.IsOrdered registry ∧
      (∀ turn ∈ turns, turn.deployment? = none → turn.asksToDelete ("acme-dev", "web") = true) ∧
      ((start Workload.collidingTasks registry).after turns).workload.cleanup? 0 =
        some ("acme-dev", "web") ∧
      ((start Workload.collidingTasks registry).after turns).maker? ("acme-dev", "web") = some 2 ∧
      (((start Workload.collidingTasks registry).after turns).workload.progress 2).result?.map
        Except.isOk = some true ∧
      ∀ circumstances, ("acme-dev", "web") ∉
        (((start Workload.collidingTasks registry).after turns).next
          (.proceed 0 circumstances)).workload.registry.machines := by
  have hordered : Fields.IsOrdered Workload.singleRegistry := Fields.isOrdered_nil.insert
  have hcleanup : (colliding (reusedName 0 2)).workload.cleanup? 0 =
      some ("acme-dev", "web") := by decide +kernel
  refine ⟨Workload.singleRegistry, reusedName 0 2, hordered, by decide +kernel, hcleanup,
    by decide +kernel, by decide +kernel, fun circumstances hmem => ?_⟩
  obtain ⟨tenures, h, -⟩ := isAttributed_after Workload.collidingTasks hordered
    (reusedName 0 2)
  rw [machines_next_of_cleanup h.isOrdered hcleanup] at hmem
  exact hmem.2 rfl

end Chronicle

end VmProvisioning
