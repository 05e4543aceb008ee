import VmProvisioning.Json.Basic

/-!
# The resource of virtual datacenters

Virtual datacenters are objects of the cluster. Their definition tells the cluster what such an
object looks like.

## Main definitions

* `DatacenterDefinition.toJson`: the definition as an object of the cluster
-/

namespace VmProvisioning.DatacenterDefinition

/-- The API group of datacenters. -/
def group : String :=
  "vdc.dev"

/-- The version of the group. -/
def version : String :=
  "v1alpha1"

/-- The kind of datacenters. -/
def kind : String :=
  "VirtualDataCenter"

/-- The plural name of the kind. -/
def plural : String :=
  "virtualdatacenters"

/-- The schema of a text. -/
def textSchema (description : String) : Json :=
  .ofTexts [("description", description), ("type", "string")]

/-- The members of the schema of a whole number of 32 bits. -/
def numberMembers (description : String) : List (String × Json) :=
  [("description", .text description), ("format", .text "uint32"), ("minimum", .double ⟨false, 0⟩),
    ("type", .text "integer")]

/-- The schema of a whole number of 32 bits. -/
def numberSchema (description : String) : Json :=
  .ofMembers (numberMembers description)

/-- The schema of a whole number that is zero when it is missing. -/
def ceilingSchema (description : String) : Json :=
  .ofMembers (("default", .int 0) :: numberMembers description)

/-- The schema of an object with properties, some of them required. -/
def objectSchema (extra : List (String × Json)) (properties : List (String × Json))
    (required : List String) : Json :=
  .ofMembers (extra ++ [("properties", .ofMembers properties), ("type", .text "object")] ++
    (if required.isEmpty then [] else [("required", .array (required.map .text))]))

/-- The schema of ceilings. -/
def quotaSchema : Json :=
  objectSchema [("description", .text "Aggregate ceilings for the VDC")]
    [("cpu", ceilingSchema "CPU cores"), ("memoryGi", ceilingSchema "Memory in GiB"),
     ("storageGi", ceilingSchema "Storage in GiB")] []

/-- The schema of bounds. -/
def limitRangeSchema : Json :=
  objectSchema [("description", .text "Optional per-VM bounds"), ("nullable", .bool true)]
    [("maxCpu", numberSchema "Maximum CPU cores per VM"),
     ("maxMemoryGi", numberSchema "Maximum memory per VM in GiB"),
     ("minCpu", numberSchema "Minimum CPU cores per VM"),
     ("minMemoryGi", numberSchema "Minimum memory per VM in GiB")]
    ["maxCpu", "maxMemoryGi", "minCpu", "minMemoryGi"]

/-- The schema of a specification. -/
def specSchema : Json :=
  objectSchema [("description", .text "Specification for a VirtualDataCenter")]
    [("limitRange", limitRangeSchema), ("organization", textSchema "Owning organization id"),
     ("quota", quotaSchema),
     ("workloadNamespace", textSchema "Namespace VMs of this VDC are created in")]
    ["organization", "quota", "workloadNamespace"]

/-- The schema of a datacenter. -/
def schema : Json :=
  objectSchema
    [("description",
      .text "Auto-generated derived type for VirtualDataCenterSpec via \x60CustomResource\x60"),
     ("title", .text kind)]
    [("spec", specSchema)] ["spec"]

/-- A column of a listing. -/
def column (name type path : String) : Json :=
  .ofMembers [("jsonPath", .text path), ("name", .text name), ("type", .text type)]

/-- The names of the resource. -/
def names : Json :=
  .ofMembers [("categories", .array []), ("kind", .text kind), ("plural", .text plural),
    ("shortNames", .array [.text "vdc"]), ("singular", .text "virtualdatacenter")]

/-- The one version of the resource. -/
def versionEntry : Json :=
  .ofMembers [
    ("additionalPrinterColumns", .array [
      column "Org" "string" ".spec.organization",
      column "Namespace" "string" ".spec.workloadNamespace",
      column "CPU" "integer" ".spec.quota.cpu",
      column "Age" "date" ".metadata.creationTimestamp"]),
    ("name", .text version), ("schema", .nest ["openAPIV3Schema"] schema),
    ("served", .bool true), ("storage", .bool true), ("subresources", .object [])]

/-- **The definition as an object of the cluster.** -/
def toJson : Json :=
  .ofMembers [("apiVersion", .text "apiextensions.k8s.io/v1"),
    ("kind", .text "CustomResourceDefinition"),
    ("metadata", .nest ["name"] (.text (plural ++ "." ++ group))),
    ("spec", .ofMembers [("group", .text group), ("names", names), ("scope", .text "Namespaced"),
      ("versions", .array [versionEntry])])]

end VmProvisioning.DatacenterDefinition
