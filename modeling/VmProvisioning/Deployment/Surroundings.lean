import VmProvisioning.Cluster.Machines
import VmProvisioning.Deployment.Pipeline
import VmProvisioning.Simulation.Registry
import VmProvisioning.Template.Store

/-!
# The surroundings of a deployment

Templates, machines and companions each live in memory or in the cluster. Whatever is in memory is
a state; whatever is in the cluster is reached by dialogues with its API.

## Main definitions

* `Surroundings`: where everything lives
* `Surroundings.ofStore`, `ofCall`, `submit`: the answers of the three parts
* `Surroundings.answer`: the answers to a deployment
-/

namespace VmProvisioning

open Api

/-- Where templates come from. -/
inductive TemplateSource where
  | static (store : StaticStore)
  | cluster (store : ClusterStore)

/-- Where machines live. -/
inductive Backend where
  | simulated
  | cluster (settings : ClusterSettings)

/-- The name of a backend. -/
def Backend.name : Backend → String
  | simulated => "simulated"
  | cluster _ => "cluster"

/-- Where companions go. -/
inductive Sink where
  | recording
  | cluster (timeout : Duration)

/-- **Where everything lives.** -/
structure Surroundings where
  templates : TemplateSource
  backend : Backend
  sink : Sink

/-- What is kept in memory: the simulated machines and the recorded companions. -/
structure Memory where
  registry : Registry := []
  recorded : List Manifest := []

/-- A dialogue with the cluster that may change what is kept in memory. -/
abbrev Surroundings.Session (α : Type) :=
  StateT Memory (Interaction Request fun _ => Answer) α

namespace Surroundings

/-- The answer of a store of templates. -/
def ofStore : TemplateSource → (query : StoreQuery) → Session query.Reply
  | .static store, query => return store.answer query
  | .cluster store, query => StateT.lift (store.answer query)

/-- The answer of a backend; `now` is the time of the call. -/
def ofCall (now : String) : Backend → (call : Call) → Session call.Reply
  | .simulated, call => fun memory =>
    let (reply, registry) := (Registry.answer now call).run memory.registry
    return (reply, { memory with registry })
  | .cluster settings, call => StateT.lift (Cluster.answer settings call)

/-- Create a companion in the cluster. -/
def createCompanion (timeout : Duration) (manifest : Manifest) : Action Unit := do
  let kind := manifest.resource.kind
  let some object := object? manifest.object
    | throw (.serialization "object has malformed metadata" (some kind))
  exchangeFor ⟨"create object", timeout, kind, manifest.ns, manifest.name⟩
    (.create manifest.resource manifest.ns object) fun value => (object? value).map fun _ => ()

/-- The answer of a sink. -/
def submit : Sink → Manifest → Session (Except Failure Unit)
  | .recording, manifest => fun memory =>
    return (.ok (), { memory with recorded := memory.recorded ++ [manifest] })
  | .cluster timeout, manifest => StateT.lift (createCompanion timeout manifest).run

/-- **The answers to a deployment.** -/
def answer (now : String) (surroundings : Surroundings) :
    (query : DeployQuery) → Session query.Reply
  | .fetch templateId => ofStore surroundings.templates (.get templateId)
  | .call call => ofCall now surroundings.backend call
  | .submit manifest => submit surroundings.sink manifest

end Surroundings

end VmProvisioning
