import VmProvisioning.Deployment.Manifest
import VmProvisioning.Proofs.Json.MergePatch

/-!
# Manifests and their objects

A manifest is made of one object of its template. Its own object has the labels of the machine it
is made for, and is moved to the namespace of the machine.

## Main results

* `Manifest.ofObject_eq_ok_iff`: the objects that become manifests
* `Manifest.ofObjects_cons_eq_ok_iff`: several objects become manifests one after the other
* `Manifest.exists_of_mem_ofObjects`: every manifest is made of an object
* `Manifest.label_own`: the labels that are put on an object
* `Materialized.manifest_of_mem`: the manifests of a template belong to the machine
-/

namespace VmProvisioning

namespace Manifest

variable {place ns templateId : String} {labels : Fields String} {object : Json}
  {manifest : Manifest}

/-- **The manifest of an object** that has a kind, an API version and a name. -/
theorem ofObject_eq_ok_iff : ofObject place ns labels object = .ok manifest ↔
    ∃ kind apiVersion name, object.nonEmptyTextAt? ["kind"] = some kind ∧
      object.nonEmptyTextAt? ["apiVersion"] = some apiVersion ∧
      object.nonEmptyTextAt? ["metadata", "name"] = some name ∧
      manifest = ⟨.ofKind apiVersion kind, name, ns, own ns labels object⟩ := by
  unfold ofObject
  cases hkind : object.nonEmptyTextAt? ["kind"] with
  | none => simp [throw, throwThe, MonadExceptOf.throw]
  | some kind =>
    cases hversion : object.nonEmptyTextAt? ["apiVersion"] with
    | none => simp [throw, throwThe, MonadExceptOf.throw]
    | some apiVersion =>
      cases hname : object.nonEmptyTextAt? ["metadata", "name"] with
      | none => simp [throw, throwThe, MonadExceptOf.throw]
      | some name => simp [pure, Except.pure, eq_comm]

/-- Objects become manifests together: the first one is made, and then the rest. -/
theorem ofObjects_cons_eq_ok_iff {index : Nat} {rest : List Json} {manifests : List Manifest} :
    ofObjects templateId ns labels index (object :: rest) = .ok manifests ↔
      ∃ first others, ofObject (templateId ++ "[" ++ toString index ++ "]") ns labels object =
          .ok first ∧
        ofObjects templateId ns labels (index + 1) rest = .ok others ∧
        manifests = first :: others := by
  simp only [ofObjects, bind, Except.bind, pure, Except.pure]
  split
  · next failure hfirst => simp only [hfirst, reduceCtorEq, false_and, exists_false]
  · next first hfirst =>
    split
    · next failure hrest => simp only [hrest, reduceCtorEq, false_and, and_false, exists_false]
    · next others hrest =>
      constructor
      · intro h
        exact ⟨first, others, hfirst, hrest, (Except.ok.inj h).symm⟩
      · rintro ⟨made, left, hmade, hleft, rfl⟩
        rw [Except.ok.inj (hfirst.symm.trans hmade), Except.ok.inj (hrest.symm.trans hleft)]

/-- **Every manifest is made of an object.** -/
theorem exists_of_mem_ofObjects {objects : List Json} {index : Nat} {manifests : List Manifest}
    (h : ofObjects templateId ns labels index objects = .ok manifests)
    (hmem : manifest ∈ manifests) :
    ∃ place, ∃ object ∈ objects, ofObject place ns labels object = .ok manifest := by
  -- Induction on the objects left, from any index: it only stands in failures.
  induction objects generalizing index manifests with
  | nil =>
    cases h
    cases hmem
  | cons object rest ih =>
    obtain ⟨first, others, hfirst, hothers, rfl⟩ := ofObjects_cons_eq_ok_iff.mp h
    rcases List.mem_cons.mp hmem with rfl | hmem
    · exact ⟨_, object, List.mem_cons_self, hfirst⟩
    · obtain ⟨place, origin, horigin, hmanifest⟩ := ih hothers hmem
      exact ⟨place, origin, List.mem_cons_of_mem _ horigin, hmanifest⟩

/-- Manifests are made of objects only. -/
theorem isObject_of_ofObject (h : ofObject place ns labels object = .ok manifest) :
    manifest.object.isObject := by
  obtain ⟨kind, apiVersion, name, hkind, -, -, rfl⟩ := ofObject_eq_ok_iff.mp h
  cases object with
  | object members => rfl
  | _ => cases hkind

/-- **The labels that are put on an object** stand in its metadata. -/
theorem label_own {key name label : String} (hlabels : (Fields.keys labels).Nodup)
    (hname : object.nonEmptyTextAt? ["metadata", "name"] = some name)
    (hlabel : Fields.get? labels key = some label) :
    (own ns labels object).textAt? ["metadata", "labels", key] = some label := by
  obtain ⟨htext, -⟩ := Option.filter_eq_some_iff.mp hname
  obtain ⟨found, hfound, -⟩ := Option.bind_eq_some_iff.mp htext
  cases object with
  | object members =>
    obtain ⟨metadata, hmetadata, hinside⟩ := Option.bind_eq_some_iff.mp hfound
    rw [Json.member?_object] at hmetadata
    cases metadata with
    | object fields =>
      simp [own, hmetadata, ownMetadata, relabel, Json.textAt?, Fields.get?_insert,
        Fields.get?_foldl_insert Json.text labels hlabels, hlabel, Json.text?]
    | _ => cases hinside
  | _ => cases hfound

end Manifest

/-- The labels that make an object one of a machine. -/
theorem Ownership.get?_labels (machineId datacenterId templateId : String) :
    Fields.get? (labels machineId datacenterId templateId) machineKey = some machineId := by
  have hkeys : [machineKey, datacenterKey, templateKey, managerKey].Nodup := by decide
  exact Fields.get?_ofList_of_nodup hkeys

namespace Materialized

variable {σ : Type} {source : RandomSource σ} {state : σ} {template : Template}
  {request : DeployRequest} {materialized : Materialized} {manifest : Manifest}

/-- The manifests of a template are made of its objects, for the machine. -/
theorem exists_of_mem_manifests (h : ofTemplate source state template request = .ok materialized)
    (hmem : manifest ∈ materialized.manifests) :
    ∃ place object, Manifest.ofObject place request.ns
      (Ownership.labels (DnsLabel.sanitize request.machineName) request.datacenterId template.id)
      object = .ok manifest := by
  simp only [ofTemplate, bind, Except.bind, pure, Except.pure] at h
  split at h
  · cases h
  split at h
  · cases h
  next manifests hmanifests =>
  cases h
  obtain ⟨place, object, -, hobject⟩ := Manifest.exists_of_mem_ofObjects hmanifests hmem
  exact ⟨place, object, hobject⟩

/-- **The manifests of a template belong to the machine**: they stand in its namespace and have
its label. -/
theorem manifest_of_mem (h : ofTemplate source state template request = .ok materialized)
    (hmem : manifest ∈ materialized.manifests) :
    manifest.ns = request.ns ∧
      manifest.object.textAt? ["metadata", "labels", Ownership.machineKey] =
        some (DnsLabel.sanitize request.machineName) := by
  obtain ⟨place, object, hobject⟩ := exists_of_mem_manifests h hmem
  obtain ⟨kind, apiVersion, name, -, -, hname, rfl⟩ := Manifest.ofObject_eq_ok_iff.mp hobject
  exact ⟨rfl, Manifest.label_own (Fields.isOrdered_ofList _).nodup_keys hname
    (Ownership.get?_labels _ _ _)⟩

end Materialized

end VmProvisioning
