import Mathlib.Logic.Function.Basic
import VmProvisioning.DnsLabel
import VmProvisioning.Kind
import VmProvisioning.Lifecycle

/-!
# The life of a machine, whatever holds it

A machine is absent, stopped or running, and this stage alone decides what a call does to it. The
backends keep much more than stages, and each gives its own addresses; what remains of an outcome
when these are left out can be compared.

## Main definitions

* `Observation`, `Call.observe`, `Call.observed`: what of an outcome does not depend on the backend
* `Stage.step`, `Stages.step`: what a call does to one machine, and to all machines
* `observations`: what is observed in a run
* `Simulates`: one step function behaves like another one

## Main results

* `Simulates.observations_eq`: what simulates another step function is observed like it
-/

namespace VmProvisioning

/-! ## Observations -/

/-- **What of a success does not depend on the backend.** -/
inductive Observation where
  /-- The call succeeds. Every backend has addresses of its own. -/
  | done
  /-- The status of a machine: its phase, and whether it is ready and has an address. -/
  | status (phase : Phase) (isReady hasAddress : Bool)
deriving DecidableEq, Repr

namespace Call

/-- **What is observed of a reply**: every failure as it is, and of a success what does not depend
on the backend. -/
def observe : (call : Call) → call.Reply → Except Failure Observation
  | status .., reply =>
    reply.map fun status => .status status.phase status.ready status.ipAddress.isSome
  | create .., reply | start .., reply | stop .., reply | restart .., reply | delete .., reply
  | ipAddress .., reply | consoleUrl .., reply | check, reply => reply.map fun _ => .done

/-- The observation of a call on a backend with a state. -/
def observed {σ : Type} (answer : (call : Call) → StateM σ call.Reply) (call : Call) :
    StateM σ (Except Failure Observation) :=
  call.observe <$> answer call

/-- The machine that a call is about, by namespace and id. -/
def target? : Call → Option (String × String)
  | create machine datacenter .. => some (datacenter.workloadNamespace, machine.id)
  | start id ns | stop id ns | restart id ns | delete id ns | status id ns | ipAddress id ns
  | consoleUrl id ns => some (ns, id)
  | check => none

/-- The machine object of a template that a call brings along. -/
def base? : Call → Option Json
  | create _ _ _ base => base
  | _ => none

end Call

/-! ## Stages -/

/-- Where a machine is in its life. -/
inductive Stage where
  /-- There is no such machine. -/
  | absent
  | stopped
  | running
deriving DecidableEq, Repr

/-- **What a call does to the machine that it is about**: a failure, or what is observed and the
next stage. -/
def Stage.step (ns id : String) : Call → Stage → Except Failure (Observation × Stage)
  | .check, stage => .ok (.done, stage)
  | .create .., absent => .ok (.done, stopped)
  | .create .., _ => .error (.conflictFor .alreadyExists ns id)
  | _, absent => .error (.notFound Kind.machine ns id)
  | .start .., stopped => .ok (.done, running)
  | .start .., running => .error (.conflictFor .alreadyRunning ns id)
  | .stop .., stopped => .error (.conflictFor .alreadyStopped ns id)
  | .stop .., running => .ok (.done, stopped)
  | .restart .., stopped => .error (.conflictFor .notRunning ns id)
  | .restart .., running => .ok (.done, running)
  | .delete .., _ => .ok (.done, absent)
  | .status .., stopped => .ok (.status .stopped false false, stopped)
  | .status .., running => .ok (.status .running true true, running)
  | .ipAddress .., stopped => .error (.conflictFor .noIpAssigned ns id)
  | .ipAddress .., running => .ok (.done, running)
  | .consoleUrl .., stage => .ok (.done, stage)

/-- The stages of all machines, by namespace and id. -/
abbrev Stages :=
  String × String → Stage

/-- **What a call does to all machines.** It depends on and changes the machine that it is about,
which has to have a label for its id. -/
def Stages.step (call : Call) : StateM Stages (Except Failure Observation) := fun stages =>
  match call.target? with
  | none => (.ok .done, stages)
  | some (ns, id) =>
    match DnsLabel.validate id, Stage.step ns id call (stages (ns, id)) with
    | .error failure, _ | .ok (), .error failure => (.error failure, stages)
    | .ok (), .ok (observation, stage) => (.ok observation, Function.update stages (ns, id) stage)

section Step

variable {call : Call} {ns id : String} {stages : Stages} {failure : Failure}
  (htarget : call.target? = some (ns, id))

include htarget

theorem Stages.step_of_invalid (hvalid : DnsLabel.validate id = .error failure) :
    (step call).run stages = (.error failure, stages) := by
  simp [step, StateT.run, htarget, hvalid]

theorem Stages.step_of_error (hvalid : DnsLabel.validate id = .ok ())
    (hstep : Stage.step ns id call (stages (ns, id)) = .error failure) :
    (step call).run stages = (.error failure, stages) := by
  simp [step, StateT.run, htarget, hvalid, hstep]

theorem Stages.step_of_ok {observation : Observation} {stage : Stage}
    (hvalid : DnsLabel.validate id = .ok ())
    (hstep : Stage.step ns id call (stages (ns, id)) = .ok (observation, stage)) :
    (step call).run stages = (.ok observation, Function.update stages (ns, id) stage) := by
  simp [step, StateT.run, htarget, hvalid, hstep]

end Step

/-! ## Runs -/

variable {ι σ τ ω : Type}

/-- **What is observed in a run** of a step function from a state. -/
def observations (step : ι → StateM σ ω) : List ι → σ → List ω
  | [], _ => []
  | input :: inputs, state =>
    ((step input).run state).1 :: observations step inputs ((step input).run state).2

/-- **A step function simulates another one** on some inputs: from related states, both let the
same be observed and reach related states. -/
def Simulates (step : ι → StateM σ ω) (spec : ι → StateM τ ω) (Covers : ι → Prop)
    (Relates : σ → τ → Prop) : Prop :=
  ∀ input, Covers input → ∀ state abstract, Relates state abstract →
    ((step input).run state).1 = ((spec input).run abstract).1 ∧
      Relates ((step input).run state).2 ((spec input).run abstract).2

/-- **A step function that simulates another one is observed like it** in every run. -/
theorem Simulates.observations_eq {step : ι → StateM σ ω} {spec : ι → StateM τ ω}
    {Covers : ι → Prop} {Relates : σ → τ → Prop} (h : Simulates step spec Covers Relates)
    {inputs : List ι} (hinputs : ∀ input ∈ inputs, Covers input) {state : σ} {abstract : τ}
    (hstate : Relates state abstract) :
    observations step inputs state = observations spec inputs abstract := by
  -- Induction on the inputs left, along related states.
  induction inputs generalizing state abstract with
  | nil => rfl
  | cons input inputs ih =>
    obtain ⟨hinput, hrest⟩ := List.forall_mem_cons.mp hinputs
    obtain ⟨hobserved, hnext⟩ := h input hinput state abstract hstate
    rw [observations, observations, hobserved, ih hrest hnext]

end VmProvisioning
