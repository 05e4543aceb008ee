import VmProvisioning.Machine.Basic
import VmProvisioning.Datacenter
import VmProvisioning.Template.Basic
import VmProvisioning.Deployment.Request
import VmProvisioning.Proofs.Json.Record

/-!
# The formats of the records are stable

Machines, their status, requests, templates, parameters and the specifications of datacenters are
read from objects with members that nobody knows, with `null` for what is optional and without
what has a default, and from arrays. Whatever they were read from, they are written as objects
that are read as the same record, but for the objects and parameters of a template, which are
never written.

## Main definitions

* `Phase.IsCanonical`: a phase that is the one of its name

## Main results

* `ofJson?_toJson` of every record: it is read back
* `MachineStatus.isCanonical_of_ofJson?`: the phase of a status that was read is the one of its name
* `isStable_formats`: the six formats are stable
-/

namespace VmProvisioning

open Json Json.RecordReader

/-! ## Machines -/

theorem Machine.ofJson?_toJson (machine : Machine) : ofJson? machine.toJson = some machine := by
  refine Finds.record?_ofMembers ?_
  refine (finds_required (text?_text _) ?_).bind <| (finds_required (text?_text _) ?_).bind <|
    (finds_required (uint32?_ofUInt32 _) ?_).bind <| (finds_required (text?_text _) ?_).bind <|
    (finds_required (text?_text _) ?_).bind <| (finds_defaulted (text?_text _) ?_).bind <|
    finds_pure _ _
  all_goals simp [Fields.get?_ofList, Fields.get?]

theorem Condition.ofJson?_toJson (condition : Condition) :
    ofJson? condition.toJson = some condition := by
  refine Finds.record?_ofMembers ?_
  refine (finds_required (text?_text _) ?_).bind <| (finds_required (text?_text _) ?_).bind <|
    (finds_required (text?_text _) ?_).bind <| finds_pure _ _
  all_goals simp [Fields.get?_ofList, Fields.get?]

theorem NetworkInterface.ofJson?_toJson (interface : NetworkInterface) :
    ofJson? interface.toJson = some interface := by
  refine Finds.record?_ofMembers ?_
  refine (finds_required (text?_text _) ?_).bind <| (finds_required (text?_text _) ?_).bind <|
    (finds_required (text?_text _) ?_).bind <| finds_pure _ _
  all_goals simp [Fields.get?_ofList, Fields.get?]

namespace Phase

theorem name_ofName (name : String) : (ofName name).name = name := by
  unfold ofName
  split
  · rfl
  · rfl
  · rfl
  · rfl

/-- **A phase is the one of its name**: no other phase has a name with a meaning of its own. -/
def IsCanonical (phase : Phase) : Prop :=
  ofName phase.name = phase

theorem isCanonical_ofName (name : String) : (ofName name).IsCanonical :=
  congrArg ofName (name_ofName name)

theorem ofJson?_toJson_iff {phase : Phase} :
    ofJson? phase.toJson = some phase ↔ phase.IsCanonical :=
  Option.some_inj

end Phase

namespace MachineStatus

/-- **A status is read back** when its phase is the one of its name. -/
theorem ofJson?_toJson {status : MachineStatus} (h : status.phase.IsCanonical) :
    ofJson? status.toJson = some status := by
  refine Finds.record?_ofMembers ?_
  refine (finds_required (Phase.ofJson?_toJson_iff.mpr h) ?_).bind <|
    (finds_required (bool?_bool _) ?_).bind <|
    (finds_optional text?_text isNull_text ?_).bind <|
    (finds_optional text?_text isNull_text ?_).bind <|
    (finds_defaulted (list?_map Condition.ofJson?_toJson _) ?_).bind <|
    (finds_defaulted (list?_map NetworkInterface.ofJson?_toJson _) ?_).bind <|
    (finds_defaulted (textFields?_ofTexts _) ?_).bind <| finds_pure _ _
  all_goals simp [Fields.get?_ofList, Fields.get?_append, Fields.get?]

/-- The phase of a status that was read is the one of its name. -/
theorem isCanonical_of_ofJson? {json : Json} {status : MachineStatus}
    (h : ofJson? json = some status) : status.phase.IsCanonical := by
  refine Yields.of_record? (fun status => status.phase.IsCanonical) ?_ h
  refine (yields_required "phase" Phase.ofJson?).bind fun phase hphase => ?_
  have hcanonical : phase.IsCanonical := by
    obtain ⟨written, hwritten⟩ := hphase
    obtain ⟨name, -, rfl⟩ := Option.map_eq_some_iff.mp hwritten
    exact Phase.isCanonical_ofName name
  -- No other field says anything about the phase.
  iterate 6 refine (yields_true _).bind fun _ _ => ?_
  exact yields_pure hcanonical

end MachineStatus

/-! ## Requests and templates -/

theorem DeployRequest.ofJson?_toJson (request : DeployRequest) :
    ofJson? request.toJson = some request := by
  refine Finds.record?_ofMembers ?_
  refine (finds_required (text?_text _) ?_).bind <| (finds_required (text?_text _) ?_).bind <|
    (finds_required (text?_text _) ?_).bind <| (finds_optional text?_text isNull_text ?_).bind <|
    (finds_required (text?_text _) ?_).bind <| finds_pure _ _
  all_goals simp [Fields.get?_ofList, Fields.get?_append, Fields.get?]

theorem Parameter.ofJson?_toJson (parameter : Parameter) :
    ofJson? parameter.toJson = some parameter := by
  refine Finds.record?_ofMembers ?_
  refine (finds_required (text?_text _) ?_).bind <|
    (finds_optional text?_text isNull_text ?_).bind <|
    (finds_optional text?_text isNull_text ?_).bind <|
    (finds_optional text?_text isNull_text ?_).bind <|
    (finds_optional text?_text isNull_text ?_).bind <|
    (finds_optional text?_text isNull_text ?_).bind <|
    (finds_defaulted (bool?_bool _) ?_).bind <| finds_pure _ _
  all_goals simp [Fields.get?_ofList, Fields.get?_append, Fields.get?]

namespace Template

/-- **What is shown of a template**: everything but its objects and parameters. -/
def shown (template : Template) : Template :=
  { template with objects := [], parameters := [] }

theorem ofJson?_toJson (template : Template) : ofJson? template.toJson = some template.shown := by
  refine Finds.record?_ofMembers ?_
  refine (finds_required (text?_text _) ?_).bind <| (finds_required (text?_text _) ?_).bind <|
    (finds_required (text?_text _) ?_).bind <| (finds_required (text?_text _) ?_).bind <|
    (finds_required (text?_text _) ?_).bind <| (finds_required (uint32?_ofUInt32 _) ?_).bind <|
    (finds_required (text?_text _) ?_).bind <| (finds_required (text?_text _) ?_).bind <|
    (finds_required (text?_text _) ?_).bind <| (finds_optional text?_text isNull_text ?_).bind <|
    (finds_required (text?_text _) ?_).bind <| (finds_absent ?_).bind <| (finds_absent ?_).bind <|
    finds_pure _ _
  all_goals simp [Fields.get?_ofList, Fields.get?_append, Fields.get?]

end Template

/-! ## Datacenters -/

theorem Ceilings.ofJson?_toJson (ceilings : Ceilings) :
    ofJson? ceilings.toJson = some ceilings := by
  refine Finds.record?_ofMembers ?_
  refine (finds_defaulted (uint32?_ofUInt32 _) ?_).bind <|
    (finds_defaulted (uint32?_ofUInt32 _) ?_).bind <|
    (finds_defaulted (uint32?_ofUInt32 _) ?_).bind <| finds_pure _ _
  all_goals simp [Fields.get?_ofList, Fields.get?]

theorem Bounds.ofJson?_toJson (bounds : Bounds) : ofJson? bounds.toJson = some bounds := by
  refine Finds.record?_ofMembers ?_
  refine (finds_required (uint32?_ofUInt32 _) ?_).bind <|
    (finds_required (uint32?_ofUInt32 _) ?_).bind <|
    (finds_required (uint32?_ofUInt32 _) ?_).bind <|
    (finds_required (uint32?_ofUInt32 _) ?_).bind <| finds_pure _ _
  all_goals simp [Fields.get?_ofList, Fields.get?]

theorem DatacenterSpec.ofJson?_toJson (spec : DatacenterSpec) :
    ofJson? spec.toJson = some spec := by
  refine Finds.record?_ofMembers ?_
  refine (finds_required (text?_text _) ?_).bind <| (finds_required (text?_text _) ?_).bind <|
    (finds_required (Ceilings.ofJson?_toJson _) ?_).bind <|
    (finds_optional Bounds.ofJson?_toJson (fun _ => rfl) ?_).bind <| finds_pure _ _
  all_goals simp [Fields.get?_ofList, Fields.get?_append, Fields.get?]

/-! ## All formats -/

/-- **The formats are stable.** Whatever a record was read from, it is written as an object that is
read as the same record again, and a template as one that is read as what is shown of it. -/
theorem isStable_formats :
    IsStable Machine.ofJson? Machine.toJson id ∧
      IsStable DeployRequest.ofJson? DeployRequest.toJson id ∧
      IsStable MachineStatus.ofJson? MachineStatus.toJson id ∧
      IsStable Template.ofJson? Template.toJson Template.shown ∧
      IsStable Parameter.ofJson? Parameter.toJson id ∧
      IsStable DatacenterSpec.ofJson? DatacenterSpec.toJson id := by
  refine ⟨?machine, ?request, ?status, ?template, ?parameter, ?spec⟩
  case machine =>
    exact .of_read_write (fun _ => rfl) (fun _ machine _ => machine.ofJson?_toJson) fun _ => rfl
  case request =>
    exact .of_read_write (fun _ => rfl) (fun _ request _ => request.ofJson?_toJson) fun _ => rfl
  case status =>
    -- Not every status is read back, but one that was read has a phase that is.
    refine .of_read_write (fun _ => rfl) (fun json status h => ?_) fun _ => rfl
    exact MachineStatus.ofJson?_toJson (MachineStatus.isCanonical_of_ofJson? h)
  case template =>
    exact .of_read_write (fun _ => rfl) (fun _ template _ => template.ofJson?_toJson) fun _ => rfl
  case parameter =>
    exact .of_read_write (fun _ => rfl) (fun _ parameter _ => parameter.ofJson?_toJson) fun _ => rfl
  case spec =>
    exact .of_read_write (fun _ => rfl) (fun _ spec _ => spec.ofJson?_toJson) fun _ => rfl

/-- Every format from an input that is not as it would be written: arrays without their last items,
`null` for what is optional, members that nobody knows, a phase without a meaning of its own, and a
template with an object. -/
theorem isStable_formats_of_array_null_unknown :
    (∃ machine, Machine.ofJson?
        (.array [.text "web", .text "Web", .int 2, .text "4Gi", .text "20Gi"]) = some machine ∧
      machine.status = "" ∧ Machine.ofJson? machine.toJson = some (id machine)) ∧
    (∃ request, DeployRequest.ofJson?
        (.array [.text "fedora", .text "Web", .text "", .null, .text "acme"]) = some request ∧
      request.diskSize = none ∧ DeployRequest.ofJson? request.toJson = some (id request)) ∧
    (∃ status, MachineStatus.ofJson? (.object [("ipAddress", .null), ("phase", .text "Paused"),
        ("ready", .bool false), ("since", .text "noon")]) = some status ∧
      status.phase = .other "Paused" ∧
      MachineStatus.ofJson? status.toJson = some (id status)) ∧
    (∃ template, Template.ofJson? (.object [("cpu", .int 1), ("description", .text ""),
        ("diskSize", .text "30Gi"), ("displayName", .text "Web"), ("iconClass", .text "icon-linux"),
        ("id", .text "web"), ("memory", .text "2Gi"), ("namespace", .text ""),
        ("objects", .array [.null]), ("osType", .text "Linux"), ("osVersion", .text "")]) =
          some template ∧ template.objects = [.null] ∧
      Template.ofJson? template.toJson = some template.shown) ∧
    (∃ parameter, Parameter.ofJson? (.object [("hint", .text "any"), ("name", .text "TOKEN"),
        ("value", .null)]) = some parameter ∧
      parameter.value = none ∧ parameter.isRequired = false ∧
      Parameter.ofJson? parameter.toJson = some (id parameter)) ∧
    ∃ spec, DatacenterSpec.ofJson? (.object [("limitRange", .null), ("organization", .text "acme"),
        ("quota", .array [.int 4]), ("since", .text "noon"),
        ("workloadNamespace", .text "acme-dev")]) = some spec ∧
      spec.quota = ⟨4, 0, 0⟩ ∧ spec.limitRange = none ∧
      DatacenterSpec.ofJson? spec.toJson = some (id spec) := by
  obtain ⟨hmachine, hrequest, hstatus, htemplate, hparameter, hspec⟩ := isStable_formats
  refine ⟨⟨?_, ?machine, ?_, hmachine.read_write _ _ ?machine⟩,
    ⟨?_, ?request, ?_, hrequest.read_write _ _ ?request⟩,
    ⟨?_, ?status, ?_, hstatus.read_write _ _ ?status⟩,
    ⟨?_, ?template, ?_, htemplate.read_write _ _ ?template⟩,
    ⟨?_, ?parameter, ?_, ?_, hparameter.read_write _ _ ?parameter⟩,
    ⟨?_, ?spec, ?_, ?_, hspec.read_write _ _ ?spec⟩⟩
  case machine => rfl
  case request => rfl
  case status => rfl
  case template => rfl
  case parameter => rfl
  case spec => rfl
  -- the fields that are looked at
  all_goals rfl

end VmProvisioning
