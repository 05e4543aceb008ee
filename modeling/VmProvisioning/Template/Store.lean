import VmProvisioning.Api.Answer
import VmProvisioning.Template.Basic

/-!
# Stores of templates

Raw templates come from a store: a list in memory or the cluster. The catalog shows the templates
of a store in normal form.

## Main definitions

* `StoreQuery`: what a store is asked
* `StaticStore`, `ClusterStore`: the two kinds of stores
* `Catalog.list`, `Catalog.get`: the templates of a store
-/

namespace VmProvisioning

open Api

/-- **What a store is asked**: all raw templates, or the one of a name. -/
inductive StoreQuery where
  | list
  | get (id : String)
deriving DecidableEq, Repr

/-- What a store answers. -/
abbrev StoreQuery.Reply : StoreQuery → Type
  | list => Except Failure (List Json)
  | get _ => Except Failure Json

/-! ## Templates in memory -/

/-- **A store in memory**, with the templates by their names. -/
structure StaticStore where
  ns : String
  templates : Fields Json

namespace StaticStore

/-- The store of a list of raw templates. Those without a name are left out, and of several with
one name the last one counts. -/
def ofList (ns : String) (raws : List Json) : StaticStore :=
  ⟨ns, Fields.ofList (raws.filterMap fun raw =>
    (Template.rawName? raw).map fun name => (name, raw))⟩

/-- The raw templates of a document: none of `null`, the items of a list, or the document. -/
def templatesOf (document : Json) : List Json :=
  if document.isNull then []
  else
    match document.textAt? ["kind"] with
    | some "List" | some "TemplateList" => document.itemsAt ["items"]
    | _ => [document]

/-- The store of a sequence of documents. -/
def ofDocuments (ns : String) (documents : List Json) : StaticStore :=
  ofList ns (documents.flatMap templatesOf)

/-- The answers of the store. -/
def answer (store : StaticStore) : (query : StoreQuery) → query.Reply
  | .list => .ok (store.templates.map Prod.snd)
  | .get id =>
    match Fields.get? store.templates id with
    | some raw => .ok raw
    | none => .error (.notFound Template.kind store.ns id)

end StaticStore

/-! ## Templates of the cluster -/

/-- **A store in the cluster**: the template objects of a namespace that a selector matches. -/
structure ClusterStore where
  timeout : Duration
  ns : String
  selector : Option String

namespace ClusterStore

/-- How template objects are addressed. -/
def templates : Resource :=
  .ofKind Template.apiVersion Template.kind

/-- Selects the templates of machines. -/
def machineSelector : String :=
  "template.kubevirt.io/type=vm"

/-- The dialogues for the queries to a store. -/
def answer (store : ClusterStore) : (query : StoreQuery) → Dialogue query.Reply
  | .list =>
    (exchangeFor ⟨"list templates", store.timeout, Template.kind, store.ns, "*"⟩
      (.list templates store.ns store.selector) objects?).run
  | .get id =>
    (exchangeFor ⟨"get template", store.timeout, Template.kind, store.ns, id⟩
      (.get templates store.ns id) object?).run

end ClusterStore

/-! ## The catalog -/

namespace Catalog

/-- Templates in the order of their display names; those with one name keep their order. -/
def sorted (templates : List Template) : List Template :=
  templates.mergeSort fun a b => a.displayName ≤ b.displayName

/-- The normal forms of raw templates, without those that have none. -/
def normalized (raws : List Json) : List Template :=
  raws.filterMap fun raw => (Template.ofRaw raw).toOption

/-- **All templates of a store.** -/
def list : Operation StoreQuery StoreQuery.Reply (List Template) := do
  let raws ← ExceptT.mk (.ask .list .done)
  return sorted (normalized raws)

/-- **The template of a name.** -/
def get (id : String) : Operation StoreQuery StoreQuery.Reply Template := do
  let raw ← ExceptT.mk (.ask (.get id) .done)
  Operation.ofExcept (Template.ofRaw raw)

end Catalog

end VmProvisioning
