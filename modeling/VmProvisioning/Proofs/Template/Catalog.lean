import Mathlib.Data.List.Sort
import VmProvisioning.Deployment.Surroundings
import VmProvisioning.Proofs.Fields
import VmProvisioning.Proofs.Text.Bytes

/-!
# The catalog of a store in memory

What the catalog lists and what it finds by a name agree for every list of raw templates. Of
several templates with one name the last one is listed and found, whatever is malformed in it, and
those without a name are neither.

## Main definitions

* `StaticStore.consult`: an operation on a store in memory
* `Template.IsLastNamed`: the raw template that counts for a name

## Main results

* `StaticStore.run_ofStore`: consulting a store leaves everything in memory as it is
* `StaticStore.get?_ofList_eq_some_iff`: the store holds the last raw template of every name
* `Catalog.filter_sorted`: templates with one display name keep their order
* `Catalog.map_id_normalized`: no template of a store is lost in its normal form
* `Catalog.list_agrees_with_get`: what is listed is what is found
-/

namespace VmProvisioning

/-! ## Stores in memory -/

namespace Template

/-- **The raw template that counts for a name** is the last one that has it. -/
def IsLastNamed (raws : List Json) (name : String) (raw : Json) : Prop :=
  ∃ before after, raws = before ++ raw :: after ∧ rawName? raw = some name ∧
    ∀ later ∈ after, rawName? later ≠ some name

theorem rawName?_eq_some_iff {raw : Json} {name : String} :
    rawName? raw = some name ↔ name ≠ "" ∧ raw.textAt? ["metadata", "name"] = some name := by
  rw [rawName?, Json.nonEmptyTextAt?, Option.filter_eq_some_iff]
  simp [and_comm]

/-- The normal form of a raw template has its name. -/
theorem ofRaw_of_rawName? {raw : Json} {name : String} (h : rawName? raw = some name) :
    ∃ template, ofRaw raw = .ok template ∧ template.id = name := by
  rw [ofRaw, h]
  exact ⟨_, rfl, rfl⟩

end Template

namespace StaticStore

variable {α : Type} (store : StaticStore)

/-- **An operation on a store in memory.** -/
def consult (operation : Operation StoreQuery StoreQuery.Reply α) : Except Failure α :=
  @Interaction.run StoreQuery StoreQuery.Reply (Except Failure α) Id _ store.answer operation.run

/-- Consulting a store in memory changes nothing that is in memory. -/
theorem run_ofStore (operation : Operation StoreQuery StoreQuery.Reply α) (memory : Memory) :
    (operation.run.run (Surroundings.ofStore (.static store))).run memory =
      pure (store.consult operation, memory) := by
  -- Induction on the operation, whose queries are answered at once.
  unfold consult
  induction operation.run with
  | done result => rfl
  | ask query next ih => exact ih (store.answer query)

theorem consult_list :
    store.consult Catalog.list =
      .ok (Catalog.sorted (Catalog.normalized (store.templates.map Prod.snd))) :=
  rfl

theorem consult_get (id : String) :
    store.consult (Catalog.get id) =
      match Fields.get? store.templates id with
      | some raw => Template.ofRaw raw
      | none => .error (.notFound Template.kind store.ns id) := by
  have hget : store.consult (Catalog.get id) = (store.answer (.get id)).bind Template.ofRaw := by
    show @Interaction.run _ _ _ Id _ store.answer
      (ExceptT.bindCont _ (store.answer (.get id))) = _
    cases store.answer (.get id) with
    | error failure => rfl
    | ok raw => rfl
  rw [hget, answer]
  cases Fields.get? store.templates id with
  | none => rfl
  | some raw => rfl

/-- The first raw template of a list that has a name, as it is looked up. -/
theorem get?_filterMap_rawName? (name : String) (raws : List Json) :
    Fields.get? (raws.filterMap fun raw =>
      (Template.rawName? raw).map fun name => (name, raw)) name =
        raws.find? fun raw => Template.rawName? raw = some name := by
  induction raws with
  | nil => rfl
  | cons raw raws ih =>
    cases hname : Template.rawName? raw with
    | none => simp [hname, ih]
    | some other =>
      by_cases heq : other = name
      · subst heq
        simp [hname, Fields.get?]
      · simp [hname, Fields.get?, heq, ih]

/-- What the store of a list holds under a name. -/
theorem get?_ofList (ns : String) (raws : List Json) (name : String) :
    Fields.get? (ofList ns raws).templates name =
      raws.reverse.find? fun raw => Template.rawName? raw = some name := by
  rw [← get?_filterMap_rawName?, List.filterMap_reverse, ofList]
  exact Fields.get?_ofList _

/-- **The store of a list holds the last raw template of every name.** -/
theorem get?_ofList_eq_some_iff {ns : String} {raws : List Json} {name : String} {raw : Json} :
    Fields.get? (ofList ns raws).templates name = some raw ↔
      Template.IsLastNamed raws name raw := by
  rw [get?_ofList, List.find?_eq_some_iff_append]
  constructor
  · rintro ⟨hname, after, before, hraws, hafter⟩
    refine ⟨before.reverse, after.reverse, ?_, by simpa using hname, ?_⟩
    · rw [← List.reverse_reverse raws, hraws]
      simp
    · simpa using hafter
  · rintro ⟨before, after, rfl, hname, hafter⟩
    refine ⟨by simpa using hname, after.reverse, before.reverse, by simp, ?_⟩
    simpa using hafter

theorem get?_ofList_isSome_iff {ns : String} {raws : List Json} {name : String} :
    (Fields.get? (ofList ns raws).templates name).isSome ↔
      ∃ raw ∈ raws, Template.rawName? raw = some name := by
  rw [get?_ofList, List.find?_isSome]
  simp

theorem isOrdered_templates (ns : String) (raws : List Json) :
    Fields.IsOrdered (ofList ns raws).templates :=
  Fields.isOrdered_ofList _

/-- Every template of a store is under its name. -/
theorem rawName?_of_mem_templates {ns : String} {raws : List Json} {entry : String × Json}
    (h : entry ∈ (ofList ns raws).templates) : Template.rawName? entry.2 = some entry.1 := by
  have hget := (isOrdered_templates ns raws).get?_eq_some_iff.mpr h
  obtain ⟨-, -, -, hname, -⟩ := get?_ofList_eq_some_iff.mp hget
  exact hname

end StaticStore

/-! ## The catalog -/

namespace Catalog

theorem le_trans_displayName (first second third : Template)
    (h : decide (first.displayName ≤ second.displayName) = true)
    (h' : decide (second.displayName ≤ third.displayName) = true) :
    decide (first.displayName ≤ third.displayName) = true :=
  decide_eq_true ((of_decide_eq_true h).trans (of_decide_eq_true h'))

theorem le_total_displayName (first second : Template) :
    (decide (first.displayName ≤ second.displayName) ||
      decide (second.displayName ≤ first.displayName)) = true := by
  simpa using le_total first.displayName second.displayName

theorem pairwise_sorted (templates : List Template) :
    (sorted templates).Pairwise fun first second => first.displayName ≤ second.displayName :=
  (List.pairwise_mergeSort le_trans_displayName le_total_displayName templates).imp
    of_decide_eq_true

theorem perm_sorted (templates : List Template) : (sorted templates).Perm templates :=
  List.mergeSort_perm _ _

/-- **Templates with one display name keep their order.** -/
theorem filter_sorted (name : String) (templates : List Template) :
    (sorted templates).filter (·.displayName = name) =
      templates.filter (·.displayName = name) := by
  have hsublist : (templates.filter (·.displayName = name)).Sublist (sorted templates) := by
    refine List.sublist_mergeSort le_trans_displayName le_total_displayName ?_ List.filter_sublist
    refine List.pairwise_of_forall_mem_list fun first hfirst second hsecond => ?_
    have hfirst := of_decide_eq_true (List.mem_filter.mp hfirst).2
    have hsecond := of_decide_eq_true (List.mem_filter.mp hsecond).2
    exact decide_eq_true (hfirst.trans hsecond.symm).le
  -- Both have the same length, so what is kept in its order is all there is.
  have hkept := hsublist.filter (·.displayName = name)
  rw [List.filter_filter] at hkept
  simp only [Bool.and_self] at hkept
  exact (hkept.eq_of_length ((perm_sorted templates).filter _).length_eq.symm).symm

/-- **No template is lost in its normal form** where every one has its name. -/
theorem map_id_normalized {entries : Fields Json}
    (h : ∀ entry ∈ entries, Template.rawName? entry.2 = some entry.1) :
    (normalized (entries.map Prod.snd)).map Template.id = Fields.keys entries := by
  induction entries with
  | nil => rfl
  | cons entry entries ih =>
    obtain ⟨hentry, hentries⟩ := List.forall_mem_cons.mp h
    obtain ⟨template, hraw, hid⟩ := Template.ofRaw_of_rawName? hentry
    have hrest := ih hentries
    rw [normalized] at hrest ⊢
    rw [List.map_cons, List.filterMap_cons_some (b := template) (by rw [hraw]; rfl), List.map_cons,
      hrest, hid]
    rfl

theorem mem_normalized_iff {raws : List Json} {template : Template} :
    template ∈ normalized raws ↔ ∃ raw ∈ raws, Template.ofRaw raw = .ok template := by
  rw [normalized, List.mem_filterMap]
  refine exists_congr fun raw => and_congr_right fun _ => ?_
  cases Template.ofRaw raw with
  | error failure => simp [Except.toOption]
  | ok result => simp [Except.toOption]

variable {ns : String} {raws : List Json} {template : Template}

/-- The templates that the catalog of a store in memory lists. -/
def listed (ns : String) (raws : List Json) : List Template :=
  sorted (normalized ((StaticStore.ofList ns raws).templates.map Prod.snd))

/-- The ids before they are sorted by display name are those of the store, in their order. -/
theorem map_id_normalized_templates (ns : String) (raws : List Json) :
    (normalized ((StaticStore.ofList ns raws).templates.map Prod.snd)).map Template.id =
      Fields.keys (StaticStore.ofList ns raws).templates :=
  map_id_normalized fun _ => StaticStore.rawName?_of_mem_templates

theorem perm_map_id_listed (ns : String) (raws : List Json) :
    ((listed ns raws).map Template.id).Perm
      (Fields.keys (StaticStore.ofList ns raws).templates) := by
  rw [← map_id_normalized_templates]
  exact (perm_sorted _).map _

theorem mem_map_id_listed_iff {id : String} :
    id ∈ (listed ns raws).map Template.id ↔
      id ≠ "" ∧ ∃ raw ∈ raws, raw.textAt? ["metadata", "name"] = some id := by
  rw [(perm_map_id_listed ns raws).mem_iff, ← Fields.get?_isSome_iff,
    StaticStore.get?_ofList_isSome_iff]
  simp only [Template.rawName?_eq_some_iff]
  constructor
  · rintro ⟨raw, hraw, hid, hname⟩
    exact ⟨hid, raw, hraw, hname⟩
  · rintro ⟨hid, raw, hraw, hname⟩
    exact ⟨raw, hraw, hid, hname⟩

/-- A template is listed as the normal form of what the store holds under its id. -/
theorem get?_of_mem_listed (h : template ∈ listed ns raws) :
    ∃ raw, Fields.get? (StaticStore.ofList ns raws).templates template.id = some raw ∧
      Template.ofRaw raw = .ok template := by
  obtain ⟨raw, hraw, hnormal⟩ := mem_normalized_iff.mp ((perm_sorted _).mem_iff.mp h)
  obtain ⟨entry, hentry, rfl⟩ := List.mem_map.mp hraw
  obtain ⟨result, hresult, hid⟩ :=
    Template.ofRaw_of_rawName? (StaticStore.rawName?_of_mem_templates hentry)
  rw [hnormal] at hresult
  cases hresult
  exact ⟨entry.2, (StaticStore.isOrdered_templates ns raws).get?_eq_some_iff.mpr (hid ▸ hentry),
    hnormal⟩

/-- Templates are listed by their display names, those with one name by their ids. -/
theorem pairwise_listed (ns : String) (raws : List Json) :
    (listed ns raws).Pairwise fun first second => first.displayName < second.displayName ∨
      first.displayName = second.displayName ∧ first.id < second.id := by
  have hids : (normalized ((StaticStore.ofList ns raws).templates.map Prod.snd)).Pairwise
      fun first second => first.id < second.id := by
    rw [← List.pairwise_map, map_id_normalized_templates]
    exact StaticStore.isOrdered_templates ns raws
  rw [List.pairwise_iff_forall_sublist]
  intro first second hsublist
  have hle := List.pairwise_iff_forall_sublist.mp (pairwise_sorted _) hsublist
  refine hle.lt_or_eq.imp_right fun heq => ⟨heq, ?_⟩
  -- Two templates with one display name stand as they do in the store, in the order of ids.
  have hkept := hsublist.filter (·.displayName = second.displayName)
  rw [listed, filter_sorted, List.filter_cons_of_pos (by simpa using heq),
    List.filter_cons_of_pos (by simp), List.filter_nil] at hkept
  exact List.pairwise_iff_forall_sublist.mp hids (hkept.trans List.filter_sublist)

/-- **What is listed is what is found.** For every list of raw templates the catalog of its store
lists templates with different ids, one for each name that is not empty. Each of them is what is
found by its id, the normal form of the last raw template of that name, and nothing is found by
another id. The list is in the order of the display names, and of the ids where those are the same,
as their bytes compare. -/
theorem list_agrees_with_get (ns : String) (raws : List Json) :
    ∃ templates, (StaticStore.ofList ns raws).consult list = .ok templates ∧
      (templates.map Template.id).Nodup ∧
      (∀ id, id ∈ templates.map Template.id ↔
        id ≠ "" ∧ ∃ raw ∈ raws, raw.textAt? ["metadata", "name"] = some id) ∧
      (∀ template ∈ templates,
        (StaticStore.ofList ns raws).consult (get template.id) = .ok template ∧
          ∃ raw, Template.IsLastNamed raws template.id raw ∧
            Template.ofRaw raw = .ok template) ∧
      (∀ id ∉ templates.map Template.id, (StaticStore.ofList ns raws).consult (get id) =
        .error (.notFound Template.kind ns id)) ∧
      templates.Pairwise fun first second =>
        Text.bytes first.displayName < Text.bytes second.displayName ∨
          first.displayName = second.displayName ∧ Text.bytes first.id < Text.bytes second.id := by
  refine ⟨listed ns raws, StaticStore.consult_list _, ?_, fun id => mem_map_id_listed_iff,
    fun template htemplate => ?_, fun id hid => ?_, ?_⟩
  · exact (perm_map_id_listed ns raws).nodup_iff.mpr
      (StaticStore.isOrdered_templates ns raws).nodup_keys
  · obtain ⟨raw, hget, hnormal⟩ := get?_of_mem_listed htemplate
    refine ⟨?_, raw, StaticStore.get?_ofList_eq_some_iff.mp hget, hnormal⟩
    rw [StaticStore.consult_get, hget]
    exact hnormal
  · rw [(perm_map_id_listed ns raws).mem_iff, ← Fields.get?_eq_none_iff] at hid
    rw [StaticStore.consult_get, hid]
    rfl
  · simp only [Text.bytes_lt_iff]
    exact pairwise_listed ns raws

end Catalog

end VmProvisioning
