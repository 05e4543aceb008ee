import VmProvisioning.Datacenter
import VmProvisioning.Json.MergePatch
import VmProvisioning.Kind
import VmProvisioning.Machine.Basic
import VmProvisioning.Ownership
import VmProvisioning.Template.Basic

/-!
# Machine objects

The cluster's object for a machine says what the machine consists of and whether it shall run. A
machine is created halted. Its object is made from the template's, with identity, owner, size and
run state laid over it, or from scratch.

## Main definitions

* `Definition.scratch`: the object of a machine whose template has none
* `Definition.overlay`, `Definition.ofBase`: the object of a machine on the base of a template's
* `Definition.wantsRunning`, `Definition.runPatch`: reading and changing the desired run state
-/

namespace VmProvisioning.Definition

/-- The name of the root disk of a machine. -/
def rootDiskName (id : String) : String :=
  id ++ "-rootdisk"

/-- Where the root disk is copied from: an image in a registry, or nothing. -/
def diskSource : Option String → Json
  | some image =>
    let url := if Text.contains image "://" then image else "docker://" ++ image
    .nest ["registry", "url"] (.text url)
  | none => .nest ["blank"] (.object [])

/-- The metadata that say what a machine is and whose it is. -/
def identity (machine : Machine) (datacenter : Datacenter) (template : Template) : Json :=
  .ofMembers [("name", .text machine.id), ("namespace", .text datacenter.workloadNamespace),
    ("labels", .ofTexts (Ownership.labels machine.id datacenter.id template.id)),
    ("annotations", .ofTexts [(Ownership.displayNameKey, machine.name)])]

/-- The sizes of a machine within the description of its hardware. -/
def sizes (machine : Machine) : List (String × Json) :=
  [("cpu", .nest ["cores"] (.ofUInt32 machine.cpu)),
   ("resources", .nest ["requests", "memory"] (.text machine.memory))]

/-- The label that ties something to a machine. -/
def machineLabel (machine : Machine) : String × String :=
  (Ownership.machineKey, machine.id)

/-- The template of the root disk of a machine. -/
def rootDisk (machine : Machine) (template : Template) : Json :=
  .ofMembers [
    ("metadata", .ofMembers [("name", .text (rootDiskName machine.id)),
      ("labels", .ofTexts [machineLabel machine])]),
    ("spec", .ofMembers [("source", diskSource template.image),
      ("storage", .nest ["resources", "requests", "storage"] (.text machine.diskSize))])]

/-- The hardware of a machine with one disk and one network interface. -/
def hardware (machine : Machine) : Json :=
  .ofMembers (sizes machine ++
    [("devices", .ofMembers [
      ("disks", .array [.ofMembers [("name", .text "rootdisk"),
        ("disk", .nest ["bus"] (.text "virtio"))]]),
      ("interfaces", .array [.ofMembers [("name", .text "default"),
        ("masquerade", .object [])]])])])

/-- **The object of a machine whose template has none**: one root disk, one network interface. -/
def scratch (machine : Machine) (datacenter : Datacenter) (template : Template) : Json :=
  .ofMembers [("apiVersion", .text Kind.machineApiVersion), ("kind", .text Kind.machine),
    ("metadata", identity machine datacenter template),
    ("spec", .ofMembers [
      ("running", .bool false),
      ("dataVolumeTemplates", .array [rootDisk machine template]),
      ("template", .ofMembers [
        ("metadata", .nest ["labels"] (.ofTexts (Fields.ofList
          [machineLabel machine, ("kubevirt.io/domain", machine.id)]))),
        ("spec", .ofMembers [
          ("domain", hardware machine),
          ("networks", .array [.ofMembers [("name", .text "default"), ("pod", .object [])]]),
          ("volumes", .array [.ofMembers [("name", .text "rootdisk"),
            ("dataVolume", .nest ["name"] (.text (rootDiskName machine.id)))]])])])])]

/-- **What is laid over the base of a machine**: identity, owner and sizes. -/
def overlay (machine : Machine) (datacenter : Datacenter) (template : Template) : Json :=
  .ofMembers [("apiVersion", .text Kind.machineApiVersion), ("kind", .text Kind.machine),
    ("metadata", identity machine datacenter template),
    ("spec", .nest ["template"] (.ofMembers [
      ("metadata", .nest ["labels"] (.ofTexts [machineLabel machine])),
      ("spec", .nest ["domain"] (.ofMembers (sizes machine)))]))]

/-- The run strategy of a machine object, when it has one. -/
def runStrategy? (object : Json) : Option String :=
  object.nonEmptyTextAt? ["spec", "runStrategy"]

/-- The patch that halts a machine object, by its run strategy when it has one. -/
def haltPatch (object : Json) : Json :=
  match runStrategy? object with
  | some _ => .nest ["spec"] (.ofMembers [("runStrategy", .text "Halted"), ("running", .null)])
  | none => .nest ["spec", "running"] (.bool false)

/-- **The object of a machine** on a base, which has to be an object to be of use. -/
def ofBase (machine : Machine) (datacenter : Datacenter) (template : Template) :
    (base : Option Json) → Json
  | some (.object members) =>
    ((Json.object members).merge (overlay machine datacenter template)).merge
      (haltPatch (.object members))
  | _ => scratch machine datacenter template

/-! ## Run state -/

/-- **Whether a machine object asks for a running instance.** -/
def wantsRunning (object : Json) : Bool :=
  match runStrategy? object with
  | some strategy => strategy == "Always" || strategy == "RerunOnFailure"
  | none => (object.boolAt? ["spec", "running"]).getD false

/-- **The patch that changes the desired run state**, by the run strategy when there is one. -/
def runPatch (object : Json) (isRunning : Bool) : Json :=
  match runStrategy? object with
  | some _ => .nest ["spec", "runStrategy"] (.text (if isRunning then "Always" else "Halted"))
  | none => .nest ["spec", "running"] (.bool isRunning)

end VmProvisioning.Definition
