import VmProvisioning.CommandLine.Invocation
import VmProvisioning.Datacenter.Definition
import VmProvisioning.Datacenter.Document
import VmProvisioning.Deployment.Surroundings
import VmProvisioning.Kubeconfig
import VmProvisioning.Quota.Enforcement
import VmProvisioning.Yaml.Writer

/-!
# The program

A command is carried out at a place, which says what the files hold, what the cluster answers and
what time it is. It ends with an outcome to print or with a fault.

## Main definitions

* `Place`: where a command is carried out
* `Outcome`, `Fault`: how it ends
* `Program.run`: carrying out an invocation
-/

namespace VmProvisioning

open Api

/-- **Where a command is carried out.** -/
structure Place where
  /-- The contents of a file that can be read. -/
  contents : String → Option String
  /-- The file that gives access to a cluster when no other one is named. -/
  kubeconfig : Option String
  /-- What the cluster answers. -/
  answer : Request → Answer
  /-- The time. -/
  now : String
  /-- The state of the source of random numbers. -/
  seed : UInt32

/-- **What a command prints**: a line and documents, which may each begin with a separator. -/
structure Outcome where
  line : Option String := none
  documents : List Json := []
  isSeparated : Bool := false

/-- **What keeps a command from being carried out.** -/
inductive Fault where
  | unreadableFile (path : String)
  | malformedDatacenter
  | needsCluster
  | failed (failure : Failure)
deriving DecidableEq, Repr

/-- The wording of a fault. -/
def Fault.message : Fault → String
  | unreadableFile path => "Failed to read " ++ Text.quoted path
  | malformedDatacenter => "Failed to parse VirtualDataCenter"
  | needsCluster => "apply-quota needs the cluster driver"
  | failed failure => failure.message

/-- The name of the program. -/
def Program.name : String :=
  "vdc-provisioner"

/-- The version of the program. -/
def Program.version : String :=
  "0.1.0"

namespace Program

/-- A step of a command, which changes what is kept in memory. -/
abbrev Step (α : Type) :=
  StateT Memory (Except Fault) α

variable (place : Place) (settings : Settings)

/-- The outcome of an operation as a step. -/
def settle {α : Type} (outcome : Except Failure α) : Step α :=
  fun memory =>
    match outcome with
    | .ok value => .ok (value, memory)
    | .error failure => .error (.failed failure)

/-- A session with the cluster as a step. -/
def perform {α : Type} (session : Surroundings.Session (Except Failure α)) : Step α := fun memory =>
  let answered := (session.run memory).run fun request => pure (place.answer request)
  let (outcome, memory) := Id.run answered
  (settle outcome).run memory

/-- The contents of a file. -/
def readFile (path : String) : Step String := fun memory =>
  match place.contents path with
  | some text => .ok (text, memory)
  | none => .error (.unreadableFile path)

/-- The datacenter of a file. -/
def readDatacenter (path : String) : Step Datacenter := do
  match (Yaml.document? (← readFile place path)).bind Datacenter.ofDocument? with
  | some datacenter => return datacenter
  | none => throw .malformedDatacenter

/-- The address of the cluster, when there is access to one. -/
def accessCluster : Step String :=
  settle (Kubeconfig.access ((settings.kubeconfig.or place.kubeconfig).bind place.contents))

/-- The templates of a file, or else of the cluster. -/
def templateSource : Option String → Step TemplateSource
  | some path => do
    match Yaml.documents? (← readFile place path) with
    | some documents => return .static (.ofDocuments settings.templateNamespace documents)
    | none => throw (.failed (.serialization "malformed document" (some Template.kind)))
  | none => do
    let _ ← accessCluster place settings
    return .cluster ⟨settings.requestTimeout, settings.templateNamespace,
      some ClusterStore.machineSelector⟩

/-- The backend that is set. -/
def backend : Step Backend :=
  match settings.backend with
  | .simulated => return .simulated
  | .cluster => do
    let url ← accessCluster place settings
    return .cluster ⟨settings.requestTimeout, settings.consoleUrl, url⟩

/-- Where companions go, by the backend that is set. -/
def sink : Sink :=
  match settings.backend with
  | .simulated => .recording
  | .cluster => .cluster settings.requestTimeout

/-- An operation on a source of templates. -/
def consult {α : Type} (templates : TemplateSource)
    (operation : Operation StoreQuery StoreQuery.Reply α) : Step α :=
  perform place (operation.run.run (Surroundings.ofStore templates))

/-- The answer of a backend to a call. -/
def call (backend : Backend) (call : Call) : Step call.Result :=
  perform place (Surroundings.ofCall place.now backend call)

/-! ## Commands -/

/-- Check that the backend can be reached. -/
def runCheck : Step Outcome := do
  let backend ← backend place settings
  call place backend .check
  return { line := some (backend.name ++ " backend reachable") }

/-- List templates. -/
def runTemplates (file : Option String) : Step Outcome := do
  let templates ← templateSource place settings file
  let list ← consult place templates Catalog.list
  return { documents := [.array (list.map Template.toJson)] }

/-- The objects of a template for a machine. -/
def runRender (file : String) (request : DeployRequest) : Step Outcome := do
  let templates ← templateSource place settings (some file)
  let template ← consult place templates (Catalog.get request.templateId)
  let materialized ← settle
    (Materialized.ofTemplate Congruential.source place.seed template request)
  return { documents := materialized.manifests.map Manifest.object, isSeparated := true }

/-- Deploy a machine and show its status. -/
def runDeploy (datacenterFile templateId machineName : String)
    (diskSize templatesFile : Option String) : Step Outcome := do
  let datacenter ← readDatacenter place datacenterFile
  if let some bounds := datacenter.spec.limitRange then settle bounds.validate
  let templates ← templateSource place settings templatesFile
  let backend ← backend place settings
  let request : DeployRequest :=
    ⟨templateId, machineName, datacenter.workloadNamespace, diskSize, datacenter.id⟩
  let surroundings : Surroundings := ⟨templates, backend, sink settings⟩
  let deployed ← perform place
    ((deploy Congruential.source place.seed request datacenter).run.run
      (surroundings.answer place.now))
  let status ← call place backend (.status deployed.machine.id deployed.ns)
  return {
    line := some ("deployed " ++ deployed.machine.id ++ " into " ++ deployed.ns ++ " (" ++
      toString deployed.companions.length ++ " companion objects)")
    documents := [status.toJson] }

/-- The status of a machine. -/
def runStatus (id ns : String) : Step Outcome := do
  let backend ← backend place settings
  let status ← call place backend (.status id ns)
  return { documents := [status.toJson] }

/-- Apply the quota of a datacenter. -/
def runApplyQuota (datacenterFile : String) : Step Outcome := do
  if settings.backend ≠ .cluster then throw .needsCluster
  let datacenter ← readDatacenter place datacenterFile
  let _ ← accessCluster place settings
  perform place
    (StateT.lift
      (Enforcement.applyDatacenter settings.requestTimeout datacenter settings.manager).run)
  return { line := some ("applied quota for VDC " ++ datacenter.id ++ " to namespace " ++
    datacenter.workloadNamespace) }

/-- Carry out a command with settings that can work. -/
def runCommand : Command → Step Outcome
  | .definition => return { documents := [DatacenterDefinition.toJson] }
  | .check => runCheck place settings
  | .templates file => runTemplates place settings file
  | .render file templateId machineName ns diskSize =>
    runRender place settings file ⟨templateId, machineName, ns, diskSize, ""⟩
  | .deploy datacenterFile templateId machineName diskSize templatesFile =>
    runDeploy place settings datacenterFile templateId machineName diskSize templatesFile
  | .status id ns => runStatus place settings id ns
  | .applyQuota datacenterFile => runApplyQuota place settings datacenterFile

/-- **Carry out an invocation.** The settings are checked first, where a command uses them. -/
def run (invocation : Invocation) : Except Fault Outcome :=
  let steps : Step Outcome := do
    if invocation.command ≠ .definition then settle invocation.settings.validate
    runCommand place invocation.settings invocation.command
  (steps.run {}).map Prod.fst

/-- The files that a command reads. -/
def filesOf (invocation : Invocation) : List String :=
  let named :=
    match invocation.command with
    | .templates file => file.toList
    | .render file .. => [file]
    | .deploy datacenterFile _ _ _ templatesFile => datacenterFile :: templatesFile.toList
    | .applyQuota datacenterFile => [datacenterFile]
    | _ => []
  named ++ invocation.settings.kubeconfig.toList

/-- What is printed as the version. -/
def versionOutcome : Outcome where
  documents := [.text (name ++ " " ++ version)]

/-- What is printed for an outcome. -/
def print (outcome : Outcome) : String :=
  let documents := outcome.documents.map fun document =>
    (if outcome.isSeparated then "---\n" else "") ++ Yaml.write document
  (outcome.line.map (· ++ "\n")).getD "" ++ String.join documents

end Program

end VmProvisioning
