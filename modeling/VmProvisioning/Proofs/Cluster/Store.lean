import Mathlib.Data.List.AList
import VmProvisioning.Proofs.Api.Exchange
import VmProvisioning.Proofs.Cluster.Definition
import VmProvisioning.Cluster.Machines

/-!
# A cluster as a store of objects

A faithful partner for the operations on a cluster: it keeps objects by resource, namespace and
name, refuses what is there already or missing, and applies merge patches. On top of that the
platform keeps an instance for every machine object that is to run, and no other, and adds to a
machine object what it knows of it.

## Main definitions

* `Location`: where an object is kept
* `Platform`: the resources of a cluster, and what it makes of machine objects
* `Store`: the objects of a cluster
* `Store.shown`, `Store.listed`: the objects as the cluster shows them
* `Platform.answer`: what the cluster answers, and its objects afterwards
* `Platform.RunsMachines`: a platform that knows machines, tells which are to run, and runs those

## Main results

* `answer_of_serves`, `answer_of_not_serves`: requests on resources that the cluster has or not
* `kept_put`, `kept_remove`: the objects after a change
* `read_refuse`, `settle_missing`: what is read from the answers that refuse
* `listed_eq_nil`: nothing is listed when nothing is shown
-/

namespace VmProvisioning

open Api

/-- Where an object is kept. -/
structure Location where
  apiVersion : String
  plural : String
  ns : String
  name : String
deriving DecidableEq, Repr

/-- The location of an object of a resource. -/
def Resource.place (resource : Resource) (ns name : String) : Location :=
  ⟨resource.apiVersion, resource.plural, ns, name⟩

namespace Location

/-- Whether objects of a resource are kept at a location. -/
def isOf (location : Location) (resource : Resource) : Bool :=
  location.apiVersion == resource.apiVersion && location.plural == resource.plural

/-- The location of the object of the same name of another resource. -/
def sibling (location : Location) (resource : Resource) : Location :=
  resource.place location.ns location.name

end Location

/-- **What a cluster is besides its objects.** -/
structure Platform where
  /-- Whether the cluster has a resource. -/
  serves : Resource → Bool
  /-- A machine object as it is shown at a moment, with what the cluster adds to it. -/
  showMachine : Nat → Json → Json
  /-- The instance of a machine object that is to run, as it is shown at a moment. -/
  makeInstance : Nat → Json → Json

/-- **The objects of a cluster.** -/
structure Store where
  objects : AList fun _ : Location => Json
  /-- How many requests have been answered. -/
  moment : Nat

namespace Store

/-- A cluster without objects. -/
def empty : Store :=
  ⟨∅, 0⟩

/-- The object that is kept at a location. -/
def kept (store : Store) (location : Location) : Option Json :=
  store.objects.lookup location

/-- Keep an object at a location, instead of the one that is there. -/
def put (store : Store) (location : Location) (object : Json) : Store :=
  { store with objects := store.objects.insert location object }

/-- Keep no object at a location. -/
def remove (store : Store) (location : Location) : Store :=
  { store with objects := store.objects.erase location }

/-- The next moment. -/
def tick (store : Store) : Store :=
  { store with moment := store.moment + 1 }

/-! ## Objects as they are shown -/

/-- The instance that the platform keeps at a location. -/
def instanceAt (platform : Platform) (store : Store) (location : Location) : Option Json :=
  if location.isOf Cluster.instances then
    ((store.kept (location.sibling Cluster.machines)).filter Definition.wantsRunning).map
      (platform.makeInstance store.moment)
  else none

/-- **The object at a location**, as the cluster shows it. -/
def shown (platform : Platform) (store : Store) (location : Location) : Option Json :=
  match store.kept location with
  | some object =>
    if location.isOf Cluster.machines then some (platform.showMachine store.moment object)
    else some object
  | none => store.instanceAt platform location

/-- All places where an object may be shown. -/
def places (store : Store) : List Location :=
  (store.objects.keys.flatMap fun location => [location, location.sibling Cluster.instances]).dedup

/-- Whether a selector of one label selects an object; without a selector all are. -/
def isSelected (selector : Option String) (object : Json) : Bool :=
  match selector with
  | none => true
  | some selector =>
    match Text.cut? ['='] selector.toList with
    | some (key, value) =>
      object.textAt? ["metadata", "labels", String.ofList key] == some (String.ofList value)
    | none => false

/-- **The objects of a resource in a namespace**, as the cluster shows them. -/
def listed (platform : Platform) (store : Store) (resource : Resource) (ns : String)
    (selector : Option String) : List Json :=
  ((store.places.filter fun location => location.isOf resource && location.ns == ns).filterMap
    (store.shown platform)).filter (isSelected selector)

end Store

/-! ## Answers -/

namespace Api

/-- The answer that refuses a request. -/
def Answer.refuse (code : Nat) (reason message : String) : Answer :=
  .answered code (.json (.ofMembers [("apiVersion", .text "v1"), ("kind", .text "Status"),
    ("metadata", .object []), ("status", .text "Failure"), ("message", .text message),
    ("reason", .text reason), ("code", .int code)]))

/-- The answer when there is no object at a location. -/
def Answer.missing (location : Location) : Answer :=
  .refuse 404 "NotFound" (location.plural ++ " " ++ Text.quoted location.name ++ " not found")

/-- The answer on a resource that the cluster does not have. -/
def Answer.unserved : Answer :=
  .answered 404 (.text "404 page not found")

/-- The answer to a deletion. -/
def Answer.deleted : Answer :=
  .answered 200 (.json (.ofMembers [("apiVersion", .text "v1"), ("kind", .text "Status"),
    ("metadata", .object []), ("status", .text "Success")]))

/-- The version of the cluster. -/
def Answer.version : Answer :=
  .answered 200 (.json (.ofTexts [("gitVersion", "v1.30.0"), ("major", "1"), ("minor", "30")]))

/-- The answer to a list of objects. -/
def Answer.list (resource : Resource) (objects : List Json) : Answer :=
  .answered 200 (.json (.ofMembers [("apiVersion", .text resource.apiVersion),
    ("kind", .text (resource.kind ++ "List")), ("metadata", .object []),
    ("items", .array objects)]))

/-- The resource that a request is about. -/
def Request.resource? : Request → Option Resource
  | version => none
  | get resource .. | list resource .. | create resource .. | merge resource .. | apply resource ..
  | delete resource .. => some resource

end Api

namespace Platform

variable (platform : Platform)

/-- The object at a location as an answer. -/
def report (code : Nat) (store : Store) (location : Location) : Answer :=
  match store.shown platform location with
  | some object => .answered code (.json object)
  | none => .missing location

/-- What the cluster answers to a request on a resource that it has, and its objects after it. -/
def serve (store : Store) : Request → Answer × Store
  | .version => (.version, store)
  | .get resource ns name => (platform.report 200 store (resource.place ns name), store)
  | .list resource ns selector =>
    (.list resource (store.listed platform resource ns selector), store)
  | .create resource ns object =>
    match object.textAt? ["metadata", "name"] with
    | none => (.refuse 422 "Invalid" "name or generateName is required", store)
    | some name =>
      let location := resource.place ns name
      match store.shown platform location with
      | some _ => (.refuse 409 "AlreadyExists" (Text.quoted name ++ " already exists"), store)
      | none =>
        (platform.report 201 (store.put location object) location, store.put location object)
  | .merge resource ns name patch =>
    let location := resource.place ns name
    match store.kept location with
    | some object =>
      (platform.report 200 (store.put location (object.merge patch)) location,
        store.put location (object.merge patch))
    | none => (platform.report 200 store location, store)
  | .apply resource ns name _ object =>
    let location := resource.place ns name
    (platform.report 200 (store.put location object) location, store.put location object)
  | .delete resource ns name _ =>
    let location := resource.place ns name
    match store.shown platform location with
    | some _ => (.deleted, store.remove location)
    | none => (.missing location, store)

/-- **What the cluster answers to a request**, and its objects after it. -/
def answer (request : Request) : StateM Store Answer := fun store =>
  if request.resource?.all platform.serves then
    let (answer, changed) := platform.serve store request
    (answer, changed.tick)
  else (.unserved, store.tick)

/-- **A platform that runs machines.** It knows machines and their instances; a machine object
stays readable and keeps its desired run state, and its status tells whether it is to run; an
instance is readable, runs, and has an interface with an address. -/
structure RunsMachines : Prop where
  servesMachines : platform.serves Cluster.machines = true
  servesInstances : platform.serves Cluster.instances = true
  isReadable_showMachine : ∀ moment machine, IsReadable machine →
    IsReadable (platform.showMachine moment machine)
  runStrategy : ∀ moment machine,
    (platform.showMachine moment machine).at? ["spec", "runStrategy"] =
      machine.at? ["spec", "runStrategy"]
  running : ∀ moment machine, (platform.showMachine moment machine).at? ["spec", "running"] =
    machine.at? ["spec", "running"]
  ready : ∀ moment machine, (platform.showMachine moment machine).boolAt? ["status", "ready"] =
    some (Definition.wantsRunning machine)
  isReadable_makeInstance : ∀ moment machine, Definition.wantsRunning machine = true →
    IsReadable (platform.makeInstance moment machine)
  isRunning : ∀ moment machine, Definition.wantsRunning machine = true →
    (platform.makeInstance moment machine).textAt? ["status", "phase"] = some "Running"
  hasAddress : ∀ moment machine, Definition.wantsRunning machine = true →
    ∃ interface ∈ (platform.makeInstance moment machine).itemsAt ["status", "interfaces"],
      textOrEmpty interface "ipAddress" ≠ ""

end Platform

namespace Platform

variable {platform : Platform} {request : Request} {resource : Resource} {store : Store}

/-- A request on a resource that the cluster has. -/
theorem answer_of_serves (hresource : request.resource? = some resource)
    (hserves : platform.serves resource = true) :
    (platform.answer request).run store =
      ((platform.serve store request).1, (platform.serve store request).2.tick) := by
  simp [answer, StateT.run, hresource, hserves]

/-- A request on a resource that the cluster does not have. -/
theorem answer_of_not_serves (hresource : request.resource? = some resource)
    (hserves : platform.serves resource = false) :
    (platform.answer request).run store = (.unserved, store.tick) := by
  simp [answer, StateT.run, hresource, hserves]

end Platform

/-! ## Laws of the store -/

namespace Store

variable {platform : Platform} {store : Store} {location other : Location} {object : Json}

@[simp] theorem kept_empty : empty.kept location = none := by
  rfl

@[simp] theorem kept_tick : store.tick.kept = store.kept := by
  rfl

@[simp] theorem moment_put : (store.put location object).moment = store.moment := by
  rfl

theorem kept_put : (store.put location object).kept other =
    if other = location then some object else store.kept other := by
  split
  · next heq =>
    subst heq
    exact AList.lookup_insert _
  · next hne => exact AList.lookup_insert_ne hne

theorem kept_remove : (store.remove location).kept other =
    if other = location then none else store.kept other := by
  split
  · next heq =>
    subst heq
    exact AList.lookup_erase _ _
  · next hne => exact AList.lookup_erase_ne hne

theorem eq_or_kept_of_kept_put {found : Json}
    (h : (store.put location object).kept other = some found) :
    other = location ∧ found = object ∨ store.kept other = some found := by
  rw [kept_put] at h
  split at h
  · next heq => exact .inl ⟨heq, (Option.some.inj h).symm⟩
  · exact .inr h

theorem kept_of_kept_remove {found : Json}
    (h : (store.remove location).kept other = some found) : store.kept other = some found := by
  rw [kept_remove] at h
  split at h
  · cases h
  · exact h

theorem shown_of_kept (h : store.kept location = some object)
    (hmachine : location.isOf Cluster.machines = true) :
    store.shown platform location = some (platform.showMachine store.moment object) := by
  simp [shown, h, hmachine]

theorem shown_of_not_kept (h : store.kept location = none)
    (hinstance : location.isOf Cluster.instances = false) :
    store.shown platform location = none := by
  simp [shown, h, instanceAt, hinstance]

/-- Nothing is listed when nothing is shown. -/
theorem listed_eq_nil {resource : Resource} {ns : String} {selector : Option String}
    (h : ∀ location : Location, location.isOf resource = true →
      store.shown platform location = none) :
    store.listed platform resource ns selector = [] := by
  have hnone : (store.places.filter fun location =>
      location.isOf resource && location.ns == ns).filterMap (store.shown platform) = [] := by
    refine List.filterMap_eq_nil_iff.mpr fun location hmem => h location ?_
    exact (Bool.and_eq_true_iff.mp (List.mem_filter.mp hmem).2).1
  rw [listed, hnone]
  rfl

end Store

/-! ## Reading answers -/

namespace Api

variable {α : Type} {read : Json → Option α}

theorem run_field {name : String} {absent : Option α} {members : Fields Json} {value : Json}
    (h : Fields.get? members name = some value) :
    (Json.field name read absent).run (.named members) =
      (read value).map fun result => (result, .named members) := by
  change Json.field name read absent (.named members) = _
  simp only [Json.field, h]

theorem apiStatus?_ofMembers {number : Json} {code : Nat} (h : number.uint? 16 = some code)
    (reason message : String) :
    apiStatus? (.ofMembers [("apiVersion", .text "v1"), ("kind", .text "Status"),
      ("metadata", .object []), ("status", .text "Failure"), ("message", .text message),
      ("reason", .text reason), ("code", number)]) = some ⟨"Failure", message, reason, code⟩ := by
  simp [apiStatus?, Json.record?, Json.ofMembers, Json.required, Json.defaulted, run_field,
    Fields.get?_ofList, Fields.get?, Json.text?, h]

/-- An answer that refuses is read as it was meant. -/
theorem read_refuse {code : Nat} (hrefused : 400 ≤ code ∧ code < 600)
    (hcode : Json.uint? 16 (.int code) = some code) (reason message : String) :
    (Answer.refuse code reason message).read read =
      .error (.refused ⟨"Failure", message, reason, code⟩) := by
  rw [Answer.refuse, Answer.read, if_pos hrefused, refusal, Body.json?, Option.bind_some,
    apiStatus?_ofMembers hcode, Option.getD_some]

/-- A missing object is a failure that names it, unless there is a remedy. -/
theorem settle_missing (concern : Concern) (location : Location) :
    settle concern (fun _ => none) ((Answer.missing location).read read) =
      .error (.notFound concern.kind concern.ns concern.name) := by
  rw [Answer.missing, read_refuse (by decide) (by decide)]
  rfl

theorem read_deleted (form : Json → Option Json) :
    Answer.deleted.read (deletion? form) = .ok () := by
  rfl

theorem read_list_nil (resource : Resource) : (Answer.list resource []).read objects? = .ok [] := by
  rfl

end Api

end VmProvisioning
