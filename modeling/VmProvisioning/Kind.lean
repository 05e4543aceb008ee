import VmProvisioning.Text.Casing
import VmProvisioning.Text.Search

/-!
# Kinds and resources

Objects have a kind and an API version; requests address them by the plural name of the kind.

## Main definitions

* `Kind.known`: the kinds that templates and machines use, with their plural names
* `Kind.plural`: the plural name of any kind
* `ApiVersion.split`: group and version
* `Resource`: how the objects of a kind are addressed
-/

namespace VmProvisioning

namespace Kind

/-- The API version of machines. -/
def machineApiVersion : String :=
  "kubevirt.io/v1"

/-- The kind of machines. -/
def machine : String :=
  "VirtualMachine"

/-- The kind of running instances. -/
def machineInstance : String :=
  "VirtualMachineInstance"

/-- **The kinds that templates and machines use**: API version, kind and plural name. -/
def known : List (String × String × String) :=
  [("kubevirt.io/v1", "VirtualMachine", "virtualmachines"),
   ("kubevirt.io/v1", "VirtualMachineInstance", "virtualmachineinstances"),
   ("cdi.kubevirt.io/v1beta1", "DataVolume", "datavolumes"),
   ("v1", "PersistentVolumeClaim", "persistentvolumeclaims"),
   ("v1", "Secret", "secrets"),
   ("v1", "ConfigMap", "configmaps"),
   ("v1", "Service", "services"),
   ("v1", "ServiceAccount", "serviceaccounts"),
   ("v1", "Pod", "pods"),
   ("rbac.authorization.k8s.io/v1", "Role", "roles"),
   ("rbac.authorization.k8s.io/v1", "RoleBinding", "rolebindings"),
   ("apps/v1", "Deployment", "deployments")]

/-- The plural name of a kind: from the table, whatever the case of its letters, and else in
lower case with an `s`. -/
def plural (kind : String) : String :=
  match known.find? fun (_, name, _) => Text.eqIgnoringAsciiCase name kind with
  | some (_, _, plural) => plural
  | none => Text.lowercase kind ++ "s"

end Kind

/-- The group and the version of an API version; the core group is empty. -/
def ApiVersion.split (apiVersion : String) : String × String :=
  match Text.cut? ['/'] apiVersion.toList with
  | some (group, version) => (String.ofList group, String.ofList version)
  | none => ("", apiVersion)

/-- How the objects of a kind are addressed. -/
structure Resource where
  apiVersion : String
  kind : String
  plural : String
deriving DecidableEq, Repr

namespace Resource

/-- The resource of a kind. -/
def ofKind (apiVersion kind : String) : Resource :=
  ⟨apiVersion, kind, Kind.plural kind⟩

/-- The API group. -/
def group (resource : Resource) : String :=
  (ApiVersion.split resource.apiVersion).1

/-- The version within the group. -/
def version (resource : Resource) : String :=
  (ApiVersion.split resource.apiVersion).2

/-- The path of all objects of a namespace. -/
def collectionPath (resource : Resource) (ns : String) : String :=
  let root := if resource.group = "" then "api" else "apis"
  "/" ++ root ++ "/" ++ resource.apiVersion ++ "/namespaces/" ++ ns ++ "/" ++ resource.plural

/-- The path of one object. -/
def objectPath (resource : Resource) (ns name : String) : String :=
  resource.collectionPath ns ++ "/" ++ name

end Resource

end VmProvisioning
