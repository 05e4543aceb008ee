import VmProvisioning.Failure
import VmProvisioning.Json.Basic
import VmProvisioning.Yaml.Reader

/-!
# Access to a cluster

A file says which clusters there are, who uses them, and which of them is current.

## Main definitions

* `Kubeconfig`: the contents of such a file
* `Kubeconfig.serverUrl?`: the address of the current cluster
-/

namespace VmProvisioning

/-- **The clusters, users and contexts of a file.** A context joins a cluster and a user. -/
structure Kubeconfig where
  clusters : List Json
  users : List Json
  contexts : List Json
  currentContext : Option String

namespace Kubeconfig

/-- Read one document. -/
def ofDocument? (document : Json) : Option Kubeconfig :=
  if document.isObject then
    some ⟨document.itemsAt ["clusters"], document.itemsAt ["users"], document.itemsAt ["contexts"],
      document.textAt? ["current-context"]⟩
  else none

/-- Two documents together; the first one counts where both have something of one name. -/
def join (first second : Kubeconfig) : Kubeconfig where
  clusters := first.clusters ++ second.clusters
  users := first.users ++ second.users
  contexts := first.contexts ++ second.contexts
  currentContext := first.currentContext.or second.currentContext

/-- Read the documents of a file. -/
def ofText? (text : String) : Option Kubeconfig := do
  let documents ← Yaml.documents? text
  return (← documents.mapM ofDocument?).foldl join ⟨[], [], [], none⟩

/-- The first entry of a name, without its name. -/
def named? (entries : List Json) (name key : String) : Option Json :=
  (entries.find? fun entry => entry.textAt? ["name"] == some name).bind fun entry =>
    (entry.member? key).filter Json.isObject

/-- **The address of the current cluster**, when the context, its cluster and its user are
there. -/
def serverUrl? (config : Kubeconfig) : Option String := do
  let context ← named? config.contexts (← config.currentContext) "context"
  let cluster ← named? config.clusters (← context.textAt? ["cluster"]) "cluster"
  match context.textAt? ["user"] with
  | some user =>
    let _ ← named? config.users user "user"
    cluster.textAt? ["server"]
  | none => cluster.textAt? ["server"]

/-- The address of the cluster that the contents of a file, if there is one, give access to. -/
def access (text? : Option String) : Except Failure String :=
  match text? with
  | none => .error (.backendUnavailable "no cluster configuration")
  | some text =>
    match (ofText? text).bind serverUrl? with
    | some url => .ok url
    | none => .error (.backendUnavailable "unusable cluster configuration")

end Kubeconfig

end VmProvisioning
