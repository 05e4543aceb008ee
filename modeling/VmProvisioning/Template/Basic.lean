import VmProvisioning.Template.Classification
import VmProvisioning.Json.Record
import VmProvisioning.Failure

/-!
# Templates

A template describes a machine and the objects that come with it, with parameters to fill in.
The raw form is the platform's; a template is its normal form, with every property decided.

## Main definitions

* `Parameter`: a declared parameter
* `Template`: a template in normal form
* `Template.ofRaw`: the normal form of a raw template
-/

namespace VmProvisioning

/-- A declared parameter: its default `value`, or a pattern to generate one from. -/
structure Parameter where
  name : String
  displayName : Option String := none
  description : Option String := none
  value : Option String := none
  /-- The generator; only `expression` is known. -/
  generate : Option String := none
  /-- The pattern of the generator. -/
  source : Option String := none
  /-- Whether there has to be a value in the end. -/
  isRequired : Bool := false
deriving DecidableEq, Repr

namespace Parameter

/-- A parameter as a JSON value. -/
def toJson (parameter : Parameter) : Json :=
  .ofMembers ([("name", .text parameter.name)] ++
    Json.ofOptional "displayName" .text parameter.displayName ++
    Json.ofOptional "description" .text parameter.description ++
    Json.ofOptional "value" .text parameter.value ++
    Json.ofOptional "generate" .text parameter.generate ++
    Json.ofOptional "from" .text parameter.source ++
    [("required", .bool parameter.isRequired)])

/-- Read a parameter. -/
def ofJson? : Json → Option Parameter :=
  Json.record? do
    return {
      name := ← Json.required "name" Json.text?
      displayName := ← Json.optional "displayName" Json.text?
      description := ← Json.optional "description" Json.text?
      value := ← Json.optional "value" Json.text?
      generate := ← Json.optional "generate" Json.text?
      source := ← Json.optional "from" Json.text?
      isRequired := ← Json.defaulted "required" Json.bool? false }

end Parameter

/-- **A template in normal form.** -/
structure Template where
  /-- The name of the template object. -/
  id : String
  displayName : String
  description : String
  osType : String
  /-- Empty when it is not known. -/
  osVersion : String
  cpu : UInt32
  memory : String
  diskSize : String
  /-- The namespace the template was read from. -/
  ns : String
  image : Option String
  iconClass : String
  /-- The objects, with references to parameters. -/
  objects : List Json
  parameters : List Parameter
deriving DecidableEq

namespace Template

/-- The kind of template objects. -/
def kind : String :=
  "Template"

/-- The API version of template objects. -/
def apiVersion : String :=
  "template.openshift.io/v1"

/-- A template with nothing but a name. -/
def new (id : String) : Template where
  id
  displayName := Classification.cleanName id
  description := ""
  osType := Classification.defaultOs
  osVersion := ""
  cpu := Classification.defaultFlavor.cpu
  memory := Classification.defaultFlavor.memory
  diskSize := Classification.defaultDiskSize
  ns := ""
  image := none
  iconClass := Classification.defaultIcon
  objects := []
  parameters := []

/-- The properties of a template as a JSON value. Objects and parameters stay out of it. -/
def toJson (template : Template) : Json :=
  .ofMembers ([("id", .text template.id), ("displayName", .text template.displayName),
    ("description", .text template.description), ("osType", .text template.osType),
    ("osVersion", .text template.osVersion), ("cpu", .ofUInt32 template.cpu),
    ("memory", .text template.memory), ("diskSize", .text template.diskSize),
    ("namespace", .text template.ns)] ++
    Json.ofOptional "image" .text template.image ++
    [("iconClass", .text template.iconClass)])

/-- Read a template in normal form. -/
def ofJson? : Json → Option Template :=
  Json.record? do
    return {
      id := ← Json.required "id" Json.text?
      displayName := ← Json.required "displayName" Json.text?
      description := ← Json.required "description" Json.text?
      osType := ← Json.required "osType" Json.text?
      osVersion := ← Json.required "osVersion" Json.text?
      cpu := ← Json.required "cpu" Json.uint32?
      memory := ← Json.required "memory" Json.text?
      diskSize := ← Json.required "diskSize" Json.text?
      ns := ← Json.required "namespace" Json.text?
      image := ← Json.optional "image" Json.text?
      iconClass := ← Json.required "iconClass" Json.text?
      objects := ← Json.defaulted "objects" (Json.list? Json.any?) []
      parameters := ← Json.defaulted "parameters" (Json.list? Parameter.ofJson?) [] }

/-- The name of a raw template. -/
def rawName? (raw : Json) : Option String :=
  raw.nonEmptyTextAt? ["metadata", "name"]

/-- **The normal form of a raw template.** Only a missing name is a failure; parameters that are
malformed or have no name are dropped. -/
def ofRaw (raw : Json) : Except Failure Template :=
  match rawName? raw with
  | none => .error (.materialization kind "<unnamed>" .unnamedTemplate)
  | some id =>
    let annotations := raw.textsAt ["metadata", "annotations"]
    let labels := raw.textsAt ["metadata", "labels"]
    let objects := raw.itemsAt ["objects"]
    let os := Classification.operatingSystem id annotations labels
    let flavor := Classification.flavor id labels
    .ok {
      id
      displayName := Classification.displayName id annotations
      description := Classification.description annotations
      osType := os.1
      osVersion := os.2
      cpu := flavor.cpu
      memory := flavor.memory
      diskSize := Classification.diskSize objects
      ns := (raw.textAt? ["metadata", "namespace"]).getD ""
      image := Classification.image annotations
      iconClass := Classification.icon id annotations
      objects
      parameters :=
        ((raw.itemsAt ["parameters"]).filterMap Parameter.ofJson?).filter (·.name ≠ "") }

end Template

end VmProvisioning
