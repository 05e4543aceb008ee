import Mathlib.Data.List.Forall2
import VmProvisioning.Proofs.Deployment.Manifest
import VmProvisioning.Proofs.Json.Lookup

/-!
# What a template becomes

The manifests of a template stand in the order of its objects, one for each. A manifest is its
object with the parameters put in, of which only the namespace and four labels are changed, and a
value in the place of the labels that is no object. What the template says of these is overruled;
every other path of the object is left alone, whatever the shape of the object.

## Main definitions

* `Manifest.ownedPaths`: the paths that are changed
* `Manifest.IsMadeOf`: a manifest against its object
* `Manifest.IsAddressed`: an object with a kind, an API version and a name

## Main results

* `Manifest.at?_own_of_apart`: the paths that are left alone
* `Manifest.exists_ofObjects_eq_ok_iff`: the objects that become manifests
* `Materialized.forall₂_isMadeOf_and_error_iff`: what a template becomes, and when it fails
-/

namespace VmProvisioning

/-- A result is a failure when it is no success. -/
theorem exists_eq_error_iff {ε α : Type} {result : Except ε α} :
    (∃ failure, result = .error failure) ↔ ¬ ∃ value, result = .ok value := by
  cases result with
  | error failure => simp
  | ok value => simp

/-! ## Paths -/

namespace Json

variable {members : Fields Json} {key name : String} {path : List String} {value : Json}

/-- What is found in an object after an insertion. -/
theorem at?_insert : (object (Fields.insert members key value)).at? (name :: path) =
    if key = name then value.at? path else (object members).at? (name :: path) := by
  rw [at?_cons, at?_cons, member?_object, member?_object, Fields.get?_insert]
  split <;> rfl

/-- A text at the end of a path is the end of an object. -/
theorem exists_object_of_textAt? (outer : List String) {inner : List String} {text : String}
    (h : value.textAt? (outer ++ key :: inner) = some text) :
    ∃ members, value.at? outer = some (object members) := by
  -- Induction on the path, from any value.
  induction outer generalizing value with
  | nil =>
    cases value with
    | object members => exact ⟨members, rfl⟩
    | _ => cases h
  | cons name rest ih =>
    obtain ⟨found, hfound, htext⟩ := Option.bind_eq_some_iff.mp h
    obtain ⟨next, hnext, hrest⟩ := Option.bind_eq_some_iff.mp hfound
    have hinner : next.textAt? (rest ++ key :: inner) = some text :=
      Option.bind_eq_some_iff.mpr ⟨found, hrest, htext⟩
    obtain ⟨members, hmembers⟩ := ih hinner
    exact ⟨members, Option.bind_eq_some_iff.mpr ⟨next, hnext, hmembers⟩⟩

end Json

/-! ## Objects with namespace and labels -/

namespace Manifest

variable {place ns templateId name : String} {labels : Fields String} {object : Json}
  {path : List String} {manifest : Manifest}

/-- What has a name is an object with an object of metadata. -/
theorem exists_metadata_of_name (hname : object.textAt? ["metadata", "name"] = some name) :
    ∃ members metadata, object = .object members ∧
      Fields.get? members "metadata" = some (.object metadata) := by
  obtain ⟨members, hmembers⟩ := Json.exists_object_of_textAt? [] hname
  obtain rfl : object = .object members := Option.some.inj hmembers
  obtain ⟨metadata, hmetadata⟩ := Json.exists_object_of_textAt? ["metadata"] hname
  exact ⟨members, metadata, rfl, by simpa using hmetadata⟩

/-- Labels that are not put on an object stay; there are none in what is no object. -/
theorem at?_relabel_of_notMem {key : String} {present : Option Json}
    (hkeys : (Fields.keys labels).Nodup) (h : key ∉ Fields.keys labels) :
    (relabel labels present).at? (key :: path) =
      present.bind fun labels => labels.at? (key :: path) := by
  have hnone : Fields.get? labels key = none := Fields.get?_eq_none_iff.mpr h
  unfold relabel
  rw [Json.at?_cons, Json.member?_object, Fields.get?_foldl_insert _ _ hkeys, hnone]
  rcases present with _ | present
  · rfl
  · cases present <;> rfl

/-- **The paths that are left alone** in an object: those apart from its namespace and from each of
the labels. -/
theorem at?_own_of_apart (hkeys : (Fields.keys labels).Nodup) (hne : labels ≠ [])
    (hname : object.textAt? ["metadata", "name"] = some name)
    (hnamespace : Json.Apart path ["metadata", "namespace"])
    (hlabels : ∀ key ∈ Fields.keys labels, Json.Apart path ["metadata", "labels", key]) :
    (own ns labels object).at? path = object.at? path := by
  obtain ⟨members, fields, rfl, hmetadata⟩ := exists_metadata_of_name hname
  rw [own, hmetadata, Option.getD_some, ownMetadata]
  -- Follow the path down to where it leaves the changed ones.
  rcases path with _ | ⟨first, path⟩
  · exact absurd List.nil_prefix hnamespace.1
  rw [Json.at?_insert]
  split
  case isFalse => rfl
  case isTrue hfirst =>
    subst hfirst
    rw [Json.at?_cons, Json.member?_object, hmetadata, Option.bind_some]
    rcases path with _ | ⟨second, path⟩
    · exact absurd ⟨["namespace"], rfl⟩ hnamespace.1
    rw [Json.at?_insert, Json.at?_insert]
    split
    case isTrue hsecond =>
      subst hsecond
      rcases path with _ | ⟨third, path⟩
      -- the labels as a whole lie above every label
      · obtain ⟨entry, rest, rfl⟩ := List.exists_cons_of_ne_nil hne
        exact absurd ⟨[entry.1], rfl⟩ (hlabels entry.1 List.mem_cons_self).1
      · have hthird : third ∉ Fields.keys labels := by
          intro hmem
          exact (hlabels third hmem).2 ⟨path, rfl⟩
        rw [at?_relabel_of_notMem hkeys hthird, Fields.get?_insert, if_neg (by decide)]
        rfl
    case isFalse =>
      rw [if_neg]
      rintro rfl
      exact hnamespace.2 ⟨path, rfl⟩

/-- The namespace that is put on an object. -/
theorem namespace_own (hname : object.textAt? ["metadata", "name"] = some name) :
    (own ns labels object).textAt? ["metadata", "namespace"] = some ns := by
  obtain ⟨members, fields, rfl, hmetadata⟩ := exists_metadata_of_name hname
  simp [own, hmetadata, ownMetadata, Json.textAt?, Fields.get?_insert, Json.text?]

/-! ## Manifests against objects -/

/-- **The paths that are changed** in the objects of a machine: the namespace and four labels. -/
def ownedPaths : List (List String) :=
  [["metadata", "namespace"], ["metadata", "labels", Ownership.machineKey],
    ["metadata", "labels", Ownership.datacenterKey],
    ["metadata", "labels", Ownership.templateKey], ["metadata", "labels", Ownership.managerKey]]

/-- **A manifest that is made of an object** for a request: it is addressed by what its own object
says, stands in the namespace of the request, has the labels of its owner and is the object
elsewhere. -/
structure IsMadeOf (request : DeployRequest) (templateId : String) (object : Json)
    (manifest : Manifest) : Prop where
  kind : manifest.resource.kind ≠ "" ∧
    manifest.object.textAt? ["kind"] = some manifest.resource.kind
  apiVersion : manifest.resource.apiVersion ≠ "" ∧
    manifest.object.textAt? ["apiVersion"] = some manifest.resource.apiVersion
  name : manifest.name ≠ "" ∧
    manifest.object.textAt? ["metadata", "name"] = some manifest.name
  ns : manifest.ns = request.ns ∧
    manifest.object.textAt? ["metadata", "namespace"] = some request.ns
  labels : ∃ members, manifest.object.at? ["metadata", "labels"] = some (.object members)
  machine : manifest.object.textAt? ["metadata", "labels", Ownership.machineKey] =
    some (DnsLabel.sanitize request.machineName)
  datacenter : manifest.object.textAt? ["metadata", "labels", Ownership.datacenterKey] =
    some request.datacenterId
  template : manifest.object.textAt? ["metadata", "labels", Ownership.templateKey] =
    some templateId
  manager : manifest.object.textAt? ["metadata", "labels", Ownership.managerKey] =
    some Ownership.manager
  /-- What the object does not have there, the manifest does not have either. -/
  elsewhere : ∀ path, (∀ owned ∈ ownedPaths, Json.Apart path owned) →
    manifest.object.at? path = object.at? path

/-- An object with a kind, an API version and a name. -/
def IsAddressed (object : Json) : Prop :=
  (object.nonEmptyTextAt? ["kind"]).isSome ∧ (object.nonEmptyTextAt? ["apiVersion"]).isSome ∧
    (object.nonEmptyTextAt? ["metadata", "name"]).isSome

/-- The labels of a machine in the order of their keys. -/
theorem labels_eq (machineId datacenterId templateId : String) :
    Ownership.labels machineId datacenterId templateId =
      [(Ownership.managerKey, Ownership.manager), (Ownership.templateKey, templateId),
        (Ownership.datacenterKey, datacenterId), (Ownership.machineKey, machineId)] := by
  rfl

/-- The paths that the namespace and the labels of a machine leave alone. -/
theorem at?_own_labels {machineId datacenterId : String}
    (hname : object.textAt? ["metadata", "name"] = some name)
    (hapart : ∀ owned ∈ ownedPaths, Json.Apart path owned) :
    (own ns (Ownership.labels machineId datacenterId templateId) object).at? path =
      object.at? path := by
  refine at?_own_of_apart (Fields.isOrdered_ofList _).nodup_keys (by simp [labels_eq]) hname
    (hapart _ (by simp [ownedPaths])) ?_
  intro key hkey
  have hmem : ["metadata", "labels", key] ∈ ownedPaths := by
    rw [labels_eq] at hkey
    simp only [Fields.keys, List.map_cons, List.map_nil, List.mem_cons, List.not_mem_nil,
      or_false] at hkey
    rcases hkey with rfl | rfl | rfl | rfl <;> simp [ownedPaths]
  exact hapart _ hmem

theorem textAt?_own_labels {machineId datacenterId text : String}
    (hname : object.textAt? ["metadata", "name"] = some name)
    (hapart : ∀ owned ∈ ownedPaths, Json.Apart path owned)
    (htext : object.textAt? path = some text) :
    (own ns (Ownership.labels machineId datacenterId templateId) object).textAt? path =
      some text := by
  rw [Json.textAt?, at?_own_labels hname hapart]
  exact htext

/-- **The manifest of an object** is made of it. -/
theorem isMadeOf_of_ofObject {request : DeployRequest}
    (h : ofObject place request.ns (Ownership.labels (DnsLabel.sanitize request.machineName)
      request.datacenterId templateId) object = .ok manifest) :
    IsMadeOf request templateId object manifest := by
  obtain ⟨kind, apiVersion, name, hkind, hversion, hname, rfl⟩ := ofObject_eq_ok_iff.mp h
  have hlabel : ∀ key label, Fields.get? (Ownership.labels (DnsLabel.sanitize request.machineName)
      request.datacenterId templateId) key = some label →
      (own request.ns (Ownership.labels (DnsLabel.sanitize request.machineName)
        request.datacenterId templateId) object).textAt? ["metadata", "labels", key] =
        some label := by
    intro key label hlabel
    exact label_own (Fields.isOrdered_ofList _).nodup_keys hname hlabel
  have hmachine := hlabel Ownership.machineKey _ rfl
  rw [Json.nonEmptyTextAt?_eq_some_iff] at hkind hversion hname
  exact
    { kind := ⟨hkind.2, textAt?_own_labels hname.1 (by decide) hkind.1⟩
      apiVersion := ⟨hversion.2, textAt?_own_labels hname.1 (by decide) hversion.1⟩
      name := ⟨hname.2, textAt?_own_labels hname.1 (by decide) hname.1⟩
      ns := ⟨rfl, namespace_own hname.1⟩
      labels := Json.exists_object_of_textAt? ["metadata", "labels"] hmachine
      machine := hmachine
      datacenter := hlabel Ownership.datacenterKey _ rfl
      template := hlabel Ownership.templateKey _ rfl
      manager := hlabel Ownership.managerKey _ rfl
      elsewhere := fun path hapart => at?_own_labels hname.1 hapart }

/-- An object becomes a manifest exactly when it is addressed. -/
theorem exists_ofObject_eq_ok_iff (place ns : String) (labels : Fields String) :
    (∃ manifest, ofObject place ns labels object = .ok manifest) ↔ IsAddressed object := by
  simp only [ofObject_eq_ok_iff, IsAddressed, Option.isSome_iff_exists]
  constructor
  · rintro ⟨manifest, kind, apiVersion, name, hkind, hversion, hname, -⟩
    exact ⟨⟨kind, hkind⟩, ⟨apiVersion, hversion⟩, ⟨name, hname⟩⟩
  · rintro ⟨⟨kind, hkind⟩, ⟨apiVersion, hversion⟩, ⟨name, hname⟩⟩
    exact ⟨_, kind, apiVersion, name, hkind, hversion, hname, rfl⟩

/-- **The manifests of objects** are made one of each, in order. -/
theorem forall₂_ofObject_of_ofObjects {objects : List Json} {index : Nat}
    {manifests : List Manifest}
    (h : ofObjects templateId ns labels index objects = .ok manifests) :
    List.Forall₂ (fun object manifest => ∃ place, ofObject place ns labels object = .ok manifest)
      objects manifests := by
  -- Induction on the objects left, from any index: it only stands in failures.
  induction objects generalizing index manifests with
  | nil =>
    cases h
    exact .nil
  | cons object rest ih =>
    obtain ⟨first, others, hfirst, hothers, rfl⟩ := ofObjects_cons_eq_ok_iff.mp h
    exact .cons ⟨_, hfirst⟩ (ih hothers)

/-- **Objects become manifests** exactly when all of them are addressed. -/
theorem exists_ofObjects_eq_ok_iff {objects : List Json} {index : Nat} :
    (∃ manifests, ofObjects templateId ns labels index objects = .ok manifests) ↔
      ∀ object ∈ objects, IsAddressed object := by
  induction objects generalizing index with
  | nil => simp [ofObjects]
  | cons object rest ih =>
    rw [List.forall_mem_cons, ← @ih (index + 1),
      ← exists_ofObject_eq_ok_iff (templateId ++ "[" ++ toString index ++ "]") ns labels]
    constructor
    · rintro ⟨manifests, h⟩
      obtain ⟨first, others, hfirst, hothers, -⟩ := ofObjects_cons_eq_ok_iff.mp h
      exact ⟨⟨first, hfirst⟩, ⟨others, hothers⟩⟩
    · rintro ⟨⟨first, hfirst⟩, ⟨others, hothers⟩⟩
      exact ⟨_, ofObjects_cons_eq_ok_iff.mpr ⟨first, others, hfirst, hothers, rfl⟩⟩

end Manifest

/-! ## Templates -/

namespace Materialized

variable {σ : Type} {source : RandomSource σ} {state : σ} {template : Template}
  {request : DeployRequest}

/-- **A template that becomes manifests**: its parameters are bound, and then its objects are
made. -/
theorem ofTemplate_eq_ok_iff {materialized : Materialized} :
    ofTemplate source state template request = .ok materialized ↔
      Binding.bind source template.id template.parameters (overrides request) state =
          .ok materialized.parameters ∧
        Manifest.ofObjects template.id request.ns (Ownership.labels
            (DnsLabel.sanitize request.machineName) request.datacenterId template.id) 0
            (template.objects.map (Reference.fill materialized.parameters)) =
          .ok materialized.manifests ∧
        materialized.machineId = DnsLabel.sanitize request.machineName := by
  obtain ⟨machineId, parameters, manifests⟩ := materialized
  simp only [ofTemplate, bind, Except.bind, pure, Except.pure]
  split
  · next failure hbind => simp [hbind]
  · next bound hbind =>
    simp only [hbind, Except.ok.injEq]
    split
    · next failure hobjects =>
      simp only [reduceCtorEq, false_iff, not_and]
      rintro rfl hmade
      rw [hobjects] at hmade
      cases hmade
    · next made hobjects =>
      simp only [Except.ok.injEq, Materialized.mk.injEq]
      constructor
      · rintro ⟨rfl, rfl, rfl⟩
        exact ⟨rfl, hobjects, rfl⟩
      · rintro ⟨rfl, hmade, rfl⟩
        rw [hobjects] at hmade
        exact ⟨rfl, rfl, Except.ok.inj hmade⟩

/-- **A template becomes manifests** exactly when its parameters can be bound and all its objects
are addressed once they are put in. -/
theorem exists_ofTemplate_eq_ok_iff :
    (∃ materialized, ofTemplate source state template request = .ok materialized) ↔
      ∃ parameters, Binding.bind source template.id template.parameters (overrides request)
          state = .ok parameters ∧
        ∀ raw ∈ template.objects, Manifest.IsAddressed (Reference.fill parameters raw) := by
  simp only [ofTemplate_eq_ok_iff]
  constructor
  · rintro ⟨⟨machineId, parameters, manifests⟩, hbind, hobjects, -⟩
    have haddressed := Manifest.exists_ofObjects_eq_ok_iff.mp ⟨manifests, hobjects⟩
    exact ⟨parameters, hbind, List.forall_mem_map.mp haddressed⟩
  · rintro ⟨parameters, hbind, haddressed⟩
    obtain ⟨manifests, hobjects⟩ := Manifest.exists_ofObjects_eq_ok_iff.mpr
      (List.forall_mem_map.mpr haddressed)
    exact ⟨⟨_, parameters, manifests⟩, hbind, hobjects, rfl⟩

/-- **A template fails** exactly when its parameters cannot be bound or an object is not addressed
once they are put in. -/
theorem exists_ofTemplate_eq_error_iff :
    (∃ failure, ofTemplate source state template request = .error failure) ↔
      (∃ failure, Binding.bind source template.id template.parameters (overrides request) state =
        .error failure) ∨
      ∃ parameters, Binding.bind source template.id template.parameters (overrides request)
          state = .ok parameters ∧
        ∃ raw ∈ template.objects, ¬ Manifest.IsAddressed (Reference.fill parameters raw) := by
  rw [exists_eq_error_iff, exists_ofTemplate_eq_ok_iff]
  rcases hbind : Binding.bind source template.id template.parameters (overrides request) state
    with failure | parameters
  · simp
  · simp

/-- **What a template becomes, and when it fails.** The manifests are made of the objects of the
template with the parameters put in, one of each and in order. There are none exactly when the
parameters cannot be bound or an object is not addressed once they are put in. -/
theorem forall₂_isMadeOf_and_error_iff :
    (∀ materialized, ofTemplate source state template request = .ok materialized →
      Binding.bind source template.id template.parameters (overrides request) state =
          .ok materialized.parameters ∧
        materialized.machineId = DnsLabel.sanitize request.machineName ∧
        List.Forall₂ (fun raw manifest => Manifest.IsMadeOf request template.id
          (Reference.fill materialized.parameters raw) manifest)
          template.objects materialized.manifests) ∧
      ((∃ failure, ofTemplate source state template request = .error failure) ↔
        (∃ failure, Binding.bind source template.id template.parameters (overrides request) state =
          .error failure) ∨
        ∃ parameters, Binding.bind source template.id template.parameters (overrides request)
            state = .ok parameters ∧
          ∃ raw ∈ template.objects, ¬ Manifest.IsAddressed (Reference.fill parameters raw)) := by
  refine ⟨?_, exists_ofTemplate_eq_error_iff⟩
  intro materialized h
  obtain ⟨hbind, hobjects, hid⟩ := ofTemplate_eq_ok_iff.mp h
  have hmade := Manifest.forall₂_ofObject_of_ofObjects hobjects
  refine ⟨hbind, hid, (List.forall₂_map_left_iff.mp hmade).imp ?_⟩
  rintro raw manifest ⟨place, hmanifest⟩
  exact Manifest.isMadeOf_of_ofObject hmanifest

/-! ## A template that claims the labels for itself -/

/-- A service that stands in another namespace and has the label of another machine. -/
def foreignService : Json :=
  .ofMembers [("apiVersion", .text "v1"), ("kind", .text "Service"),
    ("metadata", .ofMembers [("name", .text "$\x7bNAME\x7d-front"),
      ("namespace", .text "elsewhere"),
      ("labels", .ofTexts [("tier", "front"), ("vdc.dev/vm-id", "other")])]),
    ("spec", .ofMembers [("port", .text "$\x7b\x7bPORT\x7d\x7d")])]

/-- A secret whose labels are a number. -/
def oddSecret : Json :=
  .ofMembers [("apiVersion", .text "v1"), ("kind", .text "Secret"),
    ("metadata", .ofMembers [("name", .text "keys"), ("labels", .int 5)])]

/-- The template. -/
def foreignTemplate : Template :=
  { Template.new "front" with
    objects := [foreignService, oddSecret]
    parameters := [{ name := "PORT", value := some "80" }] }

/-- A request for a machine of it. -/
def frontRequest : DeployRequest :=
  ⟨"front", "Web 1", "acme-dev", none, "acme"⟩

/-- What the template becomes. -/
def frontMaterialized : Materialized where
  machineId := "web-1"
  parameters := [("NAME", "web-1"), ("NAMESPACE", "acme-dev"), ("PORT", "80")]
  manifests :=
    [⟨.ofKind "v1" "Service", "web-1-front", "acme-dev",
      .ofMembers [("apiVersion", .text "v1"), ("kind", .text "Service"),
        ("metadata", .ofMembers [("name", .text "web-1-front"), ("namespace", .text "acme-dev"),
          ("labels", .ofTexts (Fields.insert (Ownership.labels "web-1" "acme" "front") "tier"
            "front"))]),
        ("spec", .ofMembers [("port", .int 80)])]⟩,
      ⟨.ofKind "v1" "Secret", "keys", "acme-dev",
      .ofMembers [("apiVersion", .text "v1"), ("kind", .text "Secret"),
        ("metadata", .ofMembers [("name", .text "keys"), ("namespace", .text "acme-dev"),
          ("labels", .ofTexts (Ownership.labels "web-1" "acme" "front"))])]⟩]

/-- Namespace and labels of the template are overruled, and its other labels stay. -/
theorem forall₂_isMadeOf_frontMaterialized :
    ofTemplate Congruential.source 0 foreignTemplate frontRequest = .ok frontMaterialized ∧
      List.Forall₂ (fun raw manifest => Manifest.IsMadeOf frontRequest "front"
        (Reference.fill frontMaterialized.parameters raw) manifest)
        [foreignService, oddSecret] frontMaterialized.manifests := by
  have hmade : ofTemplate Congruential.source 0 foreignTemplate frontRequest =
      .ok frontMaterialized := by
    decide +kernel
  exact ⟨hmade, (forall₂_isMadeOf_and_error_iff.1 frontMaterialized hmade).2.2⟩

end Materialized

end VmProvisioning
