import Mathlib.Logic.ExistsUnique
import VmProvisioning.Deployment.Pipeline
import VmProvisioning.Proofs.Interaction

/-!
# Courses of deployments

Whatever a deployment's surroundings answer, it takes one of a few courses. It is refused before
anything is created; its machine is not created; a companion is not accepted, and then the machine
is deleted; or everything is created.

## Main definitions

* `DeployRequest.IsFor`: what the check of the target says about a request
* `Rejects`, `Admits`: what the other checks say about a raw template
* `Ending`: the four ways in which a deployment ends
* `Course`: the events and the result of a deployment that ends in a given way

## Main results

* `runs_submissions_iff`: companions are submitted in order, up to the first that is not accepted
* `Plan.checkTarget_eq_ok_iff`, `Plan.checkTarget_eq_error_iff`: which requests are for a datacenter
* `Course.ending_eq`: the events and the result show how a deployment ended
* `runs_deploy_iff_existsUnique_course`: the runs of a deployment are its courses
-/

namespace VmProvisioning

open Interaction

/-- An event of a deployment. -/
abbrev DeployEvent :=
  Event DeployQuery DeployQuery.Reply

/-! ## The single steps -/

/-- A companion that was accepted. -/
def DeployEvent.accepted (manifest : Manifest) : DeployEvent :=
  ⟨.submit manifest, .ok ()⟩

/-- A companion that was not accepted. -/
def DeployEvent.rejected (manifest : Manifest) (cause : Failure) : DeployEvent :=
  ⟨.submit manifest, .error cause⟩

namespace DeployAction

variable {trace : List DeployEvent}

theorem runs_fetch_iff {templateId : String} {result : Except Failure Json} :
    Runs (fetch templateId).run trace result ↔ trace = [⟨.fetch templateId, result⟩] := by
  constructor
  · intro h
    obtain ⟨reply, rest, rfl, hrest⟩ := runs_ask_iff.mp h
    obtain ⟨rfl, rfl⟩ := runs_done_iff.mp hrest
    rfl
  · rintro rfl
    exact runs_ask_iff.mpr ⟨result, [], rfl, .done result⟩

theorem runs_create_iff {plan : Plan} {datacenter : Datacenter} {template : Template}
    {result : Except Failure Unit} :
    Runs (create plan datacenter template).run trace result ↔
      trace = [⟨.call (.create plan.machine datacenter template plan.base), result⟩] := by
  constructor
  · intro h
    obtain ⟨reply, rest, rfl, hrest⟩ := runs_ask_iff.mp h
    obtain ⟨rfl, rfl⟩ := runs_done_iff.mp hrest
    rfl
  · rintro rfl
    exact runs_ask_iff.mpr ⟨result, [], rfl, .done result⟩

/-- Abandoning a machine succeeds whatever the backend answers. -/
theorem runs_abandon_iff {id ns : String} {result : Except Failure Unit} :
    Runs (abandon id ns).run trace result ↔
      (∃ reply, trace = [⟨.call (.delete id ns), reply⟩]) ∧ result = .ok () := by
  constructor
  · intro h
    obtain ⟨reply, rest, rfl, hrest⟩ := runs_ask_iff.mp h
    obtain ⟨rfl, rfl⟩ := runs_done_iff.mp hrest
    exact ⟨⟨reply, rfl⟩, rfl⟩
  · rintro ⟨⟨reply, rfl⟩, rfl⟩
    exact .ask reply (.done _)

theorem runs_submit_iff {manifest : Manifest} {result : Except Failure Unit} :
    Runs (submit manifest).run trace result ↔
      (trace = [DeployEvent.accepted manifest] ∧ result = .ok ()) ∨
        ∃ cause, trace = [DeployEvent.rejected manifest cause] ∧
          result = .error (.submission manifest.resource.kind manifest.name cause) := by
  constructor
  · intro h
    obtain ⟨reply, rest, rfl, hrest⟩ := runs_ask_iff.mp h
    cases reply with
    | ok value =>
      obtain ⟨rfl, rfl⟩ := runs_done_iff.mp hrest
      exact .inl ⟨rfl, rfl⟩
    | error cause =>
      obtain ⟨rfl, rfl⟩ := runs_done_iff.mp hrest
      exact .inr ⟨cause, rfl, rfl⟩
  · rintro (⟨rfl, rfl⟩ | ⟨cause, rfl, rfl⟩)
    · exact .ask _ (.done _)
    · exact .ask _ (.done _)

/-- **Companions are submitted in order**, all of them or up to the first that is not accepted. -/
theorem runs_submissions_iff {companions : List Manifest} {result : Except Failure Unit} :
    Runs (companions.forM submit : DeployAction Unit).run trace result ↔
      (trace = companions.map DeployEvent.accepted ∧ result = .ok ()) ∨
        ∃ before manifest after cause, companions = before ++ manifest :: after ∧
          trace = before.map DeployEvent.accepted ++ [DeployEvent.rejected manifest cause] ∧
          result = .error (.submission manifest.resource.kind manifest.name cause) := by
  -- Induction on the companions left.
  induction companions generalizing trace with
  | nil =>
    rw [show (List.forM [] submit : DeployAction Unit) = pure () from rfl,
      Operation.runs_pure_iff]
    simp
  | cons first rest ih =>
    rw [Operation.forM_cons, Operation.runs_bind_iff]
    simp only [runs_submit_iff, ih]
    constructor
    · rintro (⟨failure, hfirst, rfl⟩ | ⟨head, value, tail, rfl, hfirst, hrest⟩)
      -- the first companion is not accepted, and no other is submitted
      · obtain ⟨-, hok⟩ | ⟨cause, rfl, hcause⟩ := hfirst
        · cases hok
        · exact .inr ⟨[], first, rest, cause, rfl, rfl, by rw [Except.error.inj hcause]⟩
      -- the first companion is accepted, and the others follow (induction)
      · obtain ⟨rfl, -⟩ | ⟨cause, -, herror⟩ := hfirst
        · obtain ⟨rfl, rfl⟩ | ⟨before, manifest, after, cause, rfl, rfl, rfl⟩ := hrest
          · exact .inl ⟨rfl, rfl⟩
          · exact .inr ⟨first :: before, manifest, after, cause, rfl, rfl, rfl⟩
        · cases herror
    · rintro (⟨rfl, rfl⟩ | ⟨before, manifest, after, cause, hsplit, rfl, rfl⟩)
      · exact .inr ⟨[DeployEvent.accepted first], (), rest.map DeployEvent.accepted, rfl,
          .inl ⟨rfl, trivial⟩, .inl ⟨rfl, rfl⟩⟩
      · cases before with
        | nil =>
          obtain ⟨rfl, rfl⟩ := List.cons.inj hsplit
          exact .inl ⟨_, .inr ⟨cause, rfl, rfl⟩, rfl⟩
        | cons accepted before =>
          obtain ⟨rfl, rfl⟩ := List.cons.inj hsplit
          exact .inr ⟨[DeployEvent.accepted first], (), _, rfl, .inl ⟨rfl, trivial⟩,
            .inr ⟨before, manifest, after, cause, rfl, rfl, rfl⟩⟩

end DeployAction

/-! ## The checks -/

variable {σ : Type} (source : RandomSource σ) (state : σ) (request : DeployRequest)
  (datacenter : Datacenter)

/-- **A request is for a datacenter**: it names the datacenter, and the namespace of its machines or
none. -/
structure DeployRequest.IsFor : Prop where
  datacenterId : request.datacenterId = datacenter.id
  ns : request.ns = "" ∨ request.ns = datacenter.workloadNamespace

/-- **A raw template is rejected**: it is malformed, it asks for too much, or it does not
materialize in the workload namespace. -/
inductive Rejects (raw : Json) (failure : Failure) : Prop
  | malformed (hraw : Template.ofRaw raw = .error failure)
  | exceeding (template : Template) (hraw : Template.ofRaw raw = .ok template)
      (hceilings : datacenter.checkCeilings (Plan.requestedMachine template request) =
        .error failure)
  | flawed (template : Template) (hraw : Template.ofRaw raw = .ok template)
      (hceilings : datacenter.checkCeilings (Plan.requestedMachine template request) = .ok ())
      (hmaterialized : Materialized.ofTemplate source state template
        { request with ns := datacenter.workloadNamespace } = .error failure)

/-- **A raw template is admitted** as a template that becomes `materialized`. -/
structure Admits (raw : Json) (template : Template) (materialized : Materialized) : Prop where
  raw_eq : Template.ofRaw raw = .ok template
  ceilings : datacenter.checkCeilings (Plan.requestedMachine template request) = .ok ()
  materialized_eq : Materialized.ofTemplate source state template
    { request with ns := datacenter.workloadNamespace } = .ok materialized

namespace Materialized

/-- The first virtual machine among the manifests. -/
def base (materialized : Materialized) : Option Json :=
  (materialized.manifests.find? Manifest.isMachine).map Manifest.object

/-- The manifests that are no virtual machines, in the order of the template. -/
def companions (materialized : Materialized) : List Manifest :=
  materialized.manifests.filter (!·.isMachine)

end Materialized

/-- **The check of the target accepts** the requests for the datacenter. -/
theorem Plan.checkTarget_eq_ok_iff :
    Plan.checkTarget request datacenter = .ok () ↔ request.IsFor datacenter := by
  unfold checkTarget
  split
  · next hid => exact iff_of_false nofun fun hfor => hid hfor.datacenterId
  · next hid =>
    have hsame : request.datacenterId = datacenter.id := Decidable.not_not.mp hid
    split
    · next hns => exact iff_of_false nofun fun hfor => hfor.ns.elim hns.1 hns.2
    · next hns =>
      refine iff_of_true rfl ⟨hsame, ?_⟩
      rwa [← not_or, Decidable.not_not] at hns

/-- **The check of the target refuses** the requests for another datacenter, and then those for
another namespace, and says which. -/
theorem Plan.checkTarget_eq_error_iff {failure : Failure} :
    Plan.checkTarget request datacenter = .error failure ↔
      (request.datacenterId ≠ datacenter.id ∧
        failure = .validation (.otherDatacenter request.datacenterId datacenter.id)) ∨
      (request.datacenterId = datacenter.id ∧ request.ns ≠ "" ∧
        request.ns ≠ datacenter.workloadNamespace ∧ failure = .validation
          (.otherNamespace request.ns datacenter.workloadNamespace datacenter.id)) := by
  unfold checkTarget
  split
  · next hid =>
    constructor
    · rintro ⟨⟩
      exact .inl ⟨hid, rfl⟩
    · rintro (⟨-, rfl⟩ | ⟨hsame, -⟩)
      · rfl
      · exact absurd hsame hid
  · next hid =>
    have hsame : request.datacenterId = datacenter.id := Decidable.not_not.mp hid
    split
    · next hns =>
      constructor
      · rintro ⟨⟩
        exact .inr ⟨hsame, hns.1, hns.2, rfl⟩
      · rintro (⟨hother, -⟩ | ⟨-, -, -, rfl⟩)
        · exact absurd hsame hother
        · rfl
    · next hns =>
      refine iff_of_false nofun ?_
      rintro (⟨hother, -⟩ | ⟨-, hstated, hother, -⟩)
      · exact hother hsame
      · exact hns ⟨hstated, hother⟩

theorem Plan.ofRequest_eq_error_iff {template : Template} {failure : Failure} :
    Plan.ofRequest source state template request datacenter = .error failure ↔
      datacenter.checkCeilings (requestedMachine template request) = .error failure ∨
        (datacenter.checkCeilings (requestedMachine template request) = .ok () ∧
          Materialized.ofTemplate source state template
            { request with ns := datacenter.workloadNamespace } = .error failure) := by
  simp only [Plan.ofRequest]
  cases hceilings : datacenter.checkCeilings (requestedMachine template request) with
  | error cause => simp [bind, Except.bind]
  | ok =>
    cases Materialized.ofTemplate source state template
      { request with ns := datacenter.workloadNamespace } with
    | error cause => simp [bind, Except.bind]
    | ok materialized => simp [bind, Except.bind, pure, Except.pure]

theorem Plan.ofRequest_eq_ok_iff {template : Template} {plan : Plan} :
    Plan.ofRequest source state template request datacenter = .ok plan ↔
      datacenter.checkCeilings (requestedMachine template request) = .ok () ∧
        ∃ materialized, Materialized.ofTemplate source state template
            { request with ns := datacenter.workloadNamespace } = .ok materialized ∧
          plan = ⟨requestedMachine template request, materialized.base,
            materialized.companions⟩ := by
  simp only [Plan.ofRequest]
  cases hceilings : datacenter.checkCeilings (requestedMachine template request) with
  | error cause => simp [bind, Except.bind]
  | ok =>
    cases Materialized.ofTemplate source state template
      { request with ns := datacenter.workloadNamespace } with
    | error cause => simp [bind, Except.bind]
    | ok materialized =>
      simp [bind, Except.bind, pure, Except.pure, Materialized.base, Materialized.companions,
        eq_comm]

/-! ## Courses -/

/-- **The ways in which a deployment ends.** -/
inductive Ending where
  /-- Nothing was created. -/
  | refused
  /-- The backend did not create the machine. -/
  | notCreated
  /-- A companion was not accepted, and the machine was deleted. -/
  | abandoned
  /-- Everything was created. -/
  | deployed
deriving DecidableEq

namespace DeployEvent

/-- The template that was fetched. -/
def fetched (raw : Json) : DeployEvent :=
  ⟨.fetch request.templateId, .ok raw⟩

/-- What the backend answered when the machine was to be created. -/
def created (template : Template) (materialized : Materialized) (reply : Except Failure Unit) :
    DeployEvent :=
  ⟨.call (.create (Plan.requestedMachine template request) datacenter template
    materialized.base), reply⟩

/-- What the backend answered when the machine was to be deleted. -/
def deleted (template : Template) (reply : Except Failure Unit) : DeployEvent :=
  ⟨.call (.delete (Plan.requestedMachine template request).id datacenter.workloadNamespace),
    reply⟩

end DeployEvent

open DeployEvent

/-- **A course of a deployment**: all its events, and its result. -/
inductive Course : Ending → List DeployEvent → Except Failure Deployed → Prop
  | otherDatacenter (hid : request.datacenterId ≠ datacenter.id) :
    Course .refused []
      (.error (.validation (.otherDatacenter request.datacenterId datacenter.id)))
  | otherNamespace (hid : request.datacenterId = datacenter.id) (hstated : request.ns ≠ "")
      (hns : request.ns ≠ datacenter.workloadNamespace) :
    Course .refused [] (.error (.validation
      (.otherNamespace request.ns datacenter.workloadNamespace datacenter.id)))
  | missing {failure : Failure} (htarget : request.IsFor datacenter) :
    Course .refused [⟨.fetch request.templateId, .error failure⟩] (.error failure)
  | rejected {raw : Json} {failure : Failure}
      (htarget : request.IsFor datacenter)
      (hrejects : Rejects source state request datacenter raw failure) :
    Course .refused [fetched request raw] (.error failure)
  | notCreated {raw : Json} {template : Template} {materialized : Materialized} {failure : Failure}
      (htarget : request.IsFor datacenter)
      (hadmits : Admits source state request datacenter raw template materialized) :
    Course .notCreated
      [fetched request raw, created request datacenter template materialized (.error failure)]
      (.error failure)
  | abandoned {raw : Json} {template : Template} {materialized : Materialized}
      {before after : List Manifest} {manifest : Manifest} {cause : Failure}
      (reply : Except Failure Unit) (htarget : request.IsFor datacenter)
      (hadmits : Admits source state request datacenter raw template materialized)
      (hcompanions : materialized.companions = before ++ manifest :: after) :
    Course .abandoned
      (fetched request raw :: created request datacenter template materialized (.ok ()) ::
        (before.map accepted ++
          [DeployEvent.rejected manifest cause, deleted request datacenter template reply]))
      (.error (.submission manifest.resource.kind manifest.name cause))
  | deployed {raw : Json} {template : Template} {materialized : Materialized}
      (htarget : request.IsFor datacenter)
      (hadmits : Admits source state request datacenter raw template materialized) :
    Course .deployed
      (fetched request raw :: created request datacenter template materialized (.ok ()) ::
        materialized.companions.map accepted)
      (.ok ⟨Plan.requestedMachine template request, datacenter.workloadNamespace, template,
        materialized.companions⟩)

/-- The ending that events and a result show. -/
def Ending.ofRun : List DeployEvent → Except Failure Deployed → Ending
  | _, .ok _ => .deployed
  | [_, _], .error _ => .notCreated
  | _ :: _ :: _, .error _ => .abandoned
  | _, .error _ => .refused

variable {source state request datacenter} {ending : Ending} {trace : List DeployEvent}
  {result : Except Failure Deployed}

/-- **The events and the result show how a deployment ended.** -/
theorem Course.ending_eq (h : Course source state request datacenter ending trace result) :
    ending = .ofRun trace result := by
  cases h with
  | otherDatacenter => rfl
  | otherNamespace => rfl
  | missing => rfl
  | rejected => rfl
  | notCreated => rfl
  -- the two last events make this longer than the run of a machine that is not created
  | @abandoned _ _ _ before =>
    cases before with
    | nil => rfl
    | cons => rfl
  | deployed => rfl

/-! ## The runs of a deployment -/

/-- The runs of what follows the checks: the machine is created, and its companions are submitted.
The machine is deleted again after a companion that was not accepted. -/
theorem runs_carryOut_iff {plan : Plan} {template : Template} {result : Except Failure Unit} :
    Runs (carryOut plan datacenter template).run trace result ↔
      (∃ failure, trace =
          [⟨.call (.create plan.machine datacenter template plan.base), .error failure⟩] ∧
        result = .error failure) ∨
      (trace = ⟨.call (.create plan.machine datacenter template plan.base), .ok ()⟩ ::
          plan.companions.map accepted ∧ result = .ok ()) ∨
      ∃ before manifest after cause reply, plan.companions = before ++ manifest :: after ∧
        trace = ⟨.call (.create plan.machine datacenter template plan.base), .ok ()⟩ ::
          (before.map accepted ++ [DeployEvent.rejected manifest cause,
            ⟨.call (.delete plan.machine.id datacenter.workloadNamespace), reply⟩]) ∧
        result = .error (.submission manifest.resource.kind manifest.name cause) := by
  simp only [carryOut, Operation.runs_bind_iff, Operation.runs_tryCatch_iff,
    DeployAction.runs_create_iff, DeployAction.runs_abandon_iff, Operation.runs_throw_iff,
    DeployAction.runs_submissions_iff]
  constructor
  · rintro (h | ⟨head, ⟨⟩, tail, rfl, rfl, ⟨⟨⟩, hsubmitted, rfl⟩ | hfailed⟩)
    -- the machine is not created
    · exact .inl h
    -- all companions are accepted, and there is nothing to undo
    · obtain ⟨rfl, -⟩ | ⟨_, _, _, _, -, -, hok⟩ := hsubmitted
      · exact .inr (.inl ⟨rfl, rfl⟩)
      · cases hok
    -- a companion is not accepted: the machine is deleted, and the failure raised again
    · obtain ⟨submitted, failure, rest, rfl, ⟨-, hok⟩ | hrejected, hremedy⟩ := hfailed
      · cases hok
      · obtain ⟨before, manifest, after, cause, hsplit, rfl, hfailure⟩ := hrejected
        cases hfailure
        obtain ⟨_, ⟨-, hok⟩, -⟩ | ⟨_, _, _, rfl, ⟨⟨reply, rfl⟩, -⟩, rfl, rfl⟩ := hremedy
        · cases hok
        · exact .inr (.inr ⟨before, manifest, after, cause, reply, hsplit, by simp, rfl⟩)
  · rintro (h | ⟨rfl, rfl⟩ | ⟨before, manifest, after, cause, reply, hsplit, rfl, rfl⟩)
    · exact .inl h
    · exact .inr ⟨[_], (), _, rfl, rfl, .inl ⟨(), .inl ⟨rfl, trivial⟩, rfl⟩⟩
    · exact .inr ⟨[_], (), _, rfl, rfl, .inr ⟨before.map accepted ++
        [DeployEvent.rejected manifest cause], _, _, by simp,
        .inr ⟨before, manifest, after, cause, hsplit, rfl, rfl⟩,
        .inr ⟨_, (), [], rfl, ⟨⟨reply, rfl⟩, trivial⟩, rfl, rfl⟩⟩⟩

/-- A template that was fetched is rejected, or it is admitted and carried out. -/
theorem Course.of_runs_fetched {raw : Json} {rest : List DeployEvent}
    (htarget : request.IsFor datacenter)
    (h : Runs (do
        let template ← Operation.ofExcept (Template.ofRaw raw)
        let plan ← Operation.ofExcept (Plan.ofRequest source state template request datacenter)
        carryOut plan datacenter template
        return ⟨plan.machine, datacenter.workloadNamespace, template, plan.companions⟩ :
      DeployAction Deployed).run rest result) :
    ∃ ending, Course source state request datacenter ending (fetched request raw :: rest)
      result := by
  simp only [Operation.runs_bind_iff, Operation.runs_ofExcept_iff, runs_carryOut_iff,
    Operation.runs_pure_iff] at h
  -- The template is malformed, or it can be read ...
  obtain ⟨failure, ⟨rfl, hraw⟩, rfl⟩ | ⟨_, template, _, rfl, ⟨rfl, hraw⟩, h⟩ := h
  · exact ⟨_, .rejected htarget (.malformed hraw.symm)⟩
  -- ... and then it asks for too much, or does not materialize, or it is admitted ...
  obtain ⟨failure, ⟨rfl, hplan⟩, rfl⟩ | ⟨_, plan, _, rfl, ⟨rfl, hplan⟩, h⟩ := h
  · obtain hceilings | ⟨hceilings, hflaw⟩ := (Plan.ofRequest_eq_error_iff ..).mp hplan.symm
    · exact ⟨_, .rejected htarget (.exceeding template hraw.symm hceilings)⟩
    · exact ⟨_, .rejected htarget (.flawed template hraw.symm hceilings hflaw)⟩
  obtain ⟨hceilings, materialized, hmaterialized, rfl⟩ :=
    (Plan.ofRequest_eq_ok_iff ..).mp hplan.symm
  have hadmits : Admits source state request datacenter raw template materialized :=
    ⟨hraw.symm, hceilings, hmaterialized⟩
  -- ... and carried out.
  obtain ⟨failure, hrun, rfl⟩ | ⟨_, _, _, rfl, hrun, rfl, rfl⟩ := h
  · obtain ⟨_, rfl, hfailure⟩ | ⟨-, hok⟩ | hrun := hrun
    · cases hfailure
      exact ⟨_, .notCreated htarget hadmits⟩
    · cases hok
    · obtain ⟨before, manifest, after, cause, reply, hsplit, rfl, hfailure⟩ := hrun
      cases hfailure
      exact ⟨_, .abandoned reply htarget hadmits hsplit⟩
  · obtain ⟨_, -, hfailure⟩ | ⟨rfl, -⟩ | ⟨_, _, _, _, _, -, -, hfailure⟩ := hrun
    · cases hfailure
    · rw [List.append_nil]
      exact ⟨_, .deployed htarget hadmits⟩
    · cases hfailure

/-- Every run is a course. -/
theorem Course.of_runs (hrun : Runs (deploy source state request datacenter).run trace result) :
    ∃ ending, Course source state request datacenter ending trace result := by
  -- The target is checked without an event ...
  obtain ⟨failure, hcheck, rfl⟩ | ⟨before, _, rest, rfl, hcheck, hrest⟩ :=
    Operation.runs_bind_iff.mp hrun
  · obtain ⟨rfl, hrefused⟩ := Operation.runs_ofExcept_iff.mp hcheck
    rcases (Plan.checkTarget_eq_error_iff ..).mp hrefused.symm with
      ⟨hid, rfl⟩ | ⟨hid, hstated, hns, rfl⟩
    · exact ⟨_, .otherDatacenter hid⟩
    · exact ⟨_, .otherNamespace hid hstated hns⟩
  obtain ⟨rfl, haccepted⟩ := Operation.runs_ofExcept_iff.mp hcheck
  have htarget := (Plan.checkTarget_eq_ok_iff ..).mp haccepted.symm
  -- ... and then the template is fetched.
  obtain ⟨failure, hfetch, rfl⟩ | ⟨before, raw, after, rfl, hfetch, hafter⟩ :=
    Operation.runs_bind_iff.mp hrest
  · obtain rfl := DeployAction.runs_fetch_iff.mp hfetch
    exact ⟨_, .missing htarget⟩
  obtain rfl := DeployAction.runs_fetch_iff.mp hfetch
  exact Course.of_runs_fetched htarget hafter

/-- A template that is rejected ends the deployment with the reason. -/
theorem Rejects.runs_deploy {raw : Json} {failure : Failure}
    (hrejects : Rejects source state request datacenter raw failure)
    (htarget : request.IsFor datacenter) :
    Runs (deploy source state request datacenter).run [fetched request raw] (.error failure) := by
  have haccepted := (Plan.checkTarget_eq_ok_iff ..).mpr htarget
  simp only [deploy, Operation.runs_bind_iff, Operation.runs_ofExcept_iff,
    DeployAction.runs_fetch_iff]
  refine .inr ⟨[], (), _, rfl, ⟨rfl, haccepted.symm⟩, .inr ⟨[_], _, [], rfl, rfl, ?_⟩⟩
  cases hrejects with
  | malformed hraw => exact .inl ⟨_, ⟨rfl, hraw.symm⟩, rfl⟩
  | exceeding template hraw hceilings =>
    have hplan := (Plan.ofRequest_eq_error_iff source state request datacenter).mpr
      (.inl hceilings)
    exact .inr ⟨[], template, [], rfl, ⟨rfl, hraw.symm⟩, .inl ⟨_, ⟨rfl, hplan.symm⟩, rfl⟩⟩
  | flawed template hraw hceilings hflaw =>
    have hplan := (Plan.ofRequest_eq_error_iff source state request datacenter).mpr
      (.inr ⟨hceilings, hflaw⟩)
    exact .inr ⟨[], template, [], rfl, ⟨rfl, hraw.symm⟩, .inl ⟨_, ⟨rfl, hplan.symm⟩, rfl⟩⟩

/-- A template that is admitted is carried out. -/
theorem Admits.runs_deploy {raw : Json} {template : Template} {materialized : Materialized}
    (hadmits : Admits source state request datacenter raw template materialized)
    (htarget : request.IsFor datacenter) {rest : List DeployEvent}
    {outcome : Except Failure Unit}
    (hrest : Runs (carryOut ⟨Plan.requestedMachine template request, materialized.base,
      materialized.companions⟩ datacenter template).run rest outcome) :
    Runs (deploy source state request datacenter).run (fetched request raw :: rest)
      (outcome.map fun _ => ⟨Plan.requestedMachine template request,
        datacenter.workloadNamespace, template, materialized.companions⟩) := by
  have haccepted := (Plan.checkTarget_eq_ok_iff ..).mpr htarget
  have hplan := (Plan.ofRequest_eq_ok_iff source state request datacenter).mpr
    ⟨hadmits.ceilings, materialized, hadmits.materialized_eq, rfl⟩
  simp only [deploy, Operation.runs_bind_iff, Operation.runs_ofExcept_iff,
    DeployAction.runs_fetch_iff, Operation.runs_pure_iff]
  refine .inr ⟨[], (), _, rfl, ⟨rfl, haccepted.symm⟩, .inr ⟨[_], raw, rest, rfl, rfl, ?_⟩⟩
  refine .inr ⟨[], template, rest, rfl, ⟨rfl, hadmits.raw_eq.symm⟩, ?_⟩
  refine .inr ⟨[], _, rest, rfl, ⟨rfl, hplan.symm⟩, ?_⟩
  cases outcome with
  | error failure => exact .inl ⟨failure, hrest, rfl⟩
  | ok => exact .inr ⟨rest, (), [], by simp, hrest, rfl, rfl⟩

/-- Every course is a run. -/
theorem Course.runs (h : Course source state request datacenter ending trace result) :
    Runs (deploy source state request datacenter).run trace result := by
  cases h with
  | otherDatacenter hid =>
    have hrefused := (Plan.checkTarget_eq_error_iff ..).mpr (.inl ⟨hid, rfl⟩)
    exact Operation.runs_bind_iff.mpr
      (.inl ⟨_, Operation.runs_ofExcept_iff.mpr ⟨rfl, hrefused.symm⟩, rfl⟩)
  | otherNamespace hid hstated hns =>
    have hrefused := (Plan.checkTarget_eq_error_iff ..).mpr (.inr ⟨hid, hstated, hns, rfl⟩)
    exact Operation.runs_bind_iff.mpr
      (.inl ⟨_, Operation.runs_ofExcept_iff.mpr ⟨rfl, hrefused.symm⟩, rfl⟩)
  | missing htarget =>
    have haccepted := (Plan.checkTarget_eq_ok_iff ..).mpr htarget
    simp only [deploy, Operation.runs_bind_iff, Operation.runs_ofExcept_iff,
      DeployAction.runs_fetch_iff]
    exact .inr ⟨[], (), _, rfl, ⟨rfl, haccepted.symm⟩, .inl ⟨_, rfl, rfl⟩⟩
  | rejected htarget hrejects => exact hrejects.runs_deploy htarget
  | @notCreated _ _ _ failure htarget hadmits =>
    exact hadmits.runs_deploy htarget (runs_carryOut_iff.mpr (.inl ⟨failure, rfl, rfl⟩))
  | abandoned reply htarget hadmits hsplit =>
    exact hadmits.runs_deploy htarget
      (runs_carryOut_iff.mpr (.inr (.inr ⟨_, _, _, _, reply, hsplit, rfl, rfl⟩)))
  | deployed htarget hadmits =>
    exact hadmits.runs_deploy htarget (runs_carryOut_iff.mpr (.inr (.inl ⟨rfl, rfl⟩)))

variable (source state request datacenter trace result) in
/-- **The runs of a deployment are its courses**, and each of them ends in exactly one way. -/
theorem runs_deploy_iff_existsUnique_course :
    Runs (deploy source state request datacenter).run trace result ↔
      ∃! ending, Course source state request datacenter ending trace result := by
  constructor
  · intro hrun
    obtain ⟨ending, hending⟩ := Course.of_runs hrun
    exact ⟨ending, hending, fun other hother => hother.ending_eq.trans hending.ending_eq.symm⟩
  · rintro ⟨ending, hending, -⟩
    exact hending.runs

end VmProvisioning
