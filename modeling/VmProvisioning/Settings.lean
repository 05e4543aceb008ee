import VmProvisioning.Duration
import VmProvisioning.Failure
import VmProvisioning.Ownership
import VmProvisioning.Text.Casing
import VmProvisioning.Text.Search

/-!
# Settings

## Main definitions

* `BackendKind`: which backend to use, with `BackendKind.ofName?`
* `Settings`: everything that can be set, with `Settings.validate`
-/

namespace VmProvisioning

/-- Which backend to use. -/
inductive BackendKind where
  | cluster
  | simulated
deriving DecidableEq, Repr

namespace BackendKind

/-- The name of a kind of backend. -/
def name : BackendKind → String
  | cluster => "cluster"
  | simulated => "simulated"

/-- The kind of backend of a name, which may differ in the case of its letters when that is
allowed. -/
def ofName? (ignoringCase : Bool) (text : String) : Option BackendKind :=
  [cluster, simulated].find? fun kind =>
    if ignoringCase then Text.eqIgnoringAsciiCase kind.name text else kind.name == text

end BackendKind

/-- **Everything that can be set.** -/
structure Settings where
  backend : BackendKind := .cluster
  /-- The file that says how the cluster is reached. -/
  kubeconfig : Option String := none
  connectTimeout : Duration := .ofSeconds 5
  readTimeout : Duration := .ofSeconds 30
  /-- The time that a single request may take. -/
  requestTimeout : Duration := .ofSeconds 30
  templateNamespace : String := "openshift"
  consoleUrl : Option String := none
  /-- The owner of the fields that are applied. -/
  manager : String := Ownership.manager
deriving DecidableEq, Repr

namespace Settings

/-- Whether a text begins like the address of a web page. -/
def isWebAddress (url : String) : Bool :=
  Text.beginsWith url "http://" || Text.beginsWith url "https://"

/-- **Refuse settings that cannot work.** -/
def validate (settings : Settings) : Except Failure Unit := do
  if settings.requestTimeout.milliseconds = 0 then throw (.validation .noRequestTimeout)
  if settings.templateNamespace = "" then throw (.validation .noTemplateNamespace)
  match settings.consoleUrl with
  | some url => if !isWebAddress url then throw (.validation (.consoleUrl url))
  | none => return ()

end Settings

end VmProvisioning
