import VmProvisioning.Api.Object
import VmProvisioning.Proofs.Api.Schema
import VmProvisioning.Proofs.Json.MergePatch

/-!
# Readable objects

Whether an object is readable is a matter of its metadata alone. The normal form of an object is
readable, and a merge patch that leaves the metadata alone keeps an object readable.

## Main definitions

* `Api.IsReadable`: an object that has a normal form
* `Api.Fits`: a patch that keeps values of a type in the type

## Main results

* `isReadable_object?`: normal forms are readable
* `IsReadable.merge`: patches that do not name the metadata
* `at?_object?`, `name_object?`, `label_object?`: the normal form of an object keeps what is not
  typed, its name and its labels
* `isSome_read?_mergeMembers`: patches that keep a record readable
-/

namespace VmProvisioning.Api

variable {value object : Json} {members entries : Fields Json} {key : String} {path : List String}

/-- **A readable object** has a normal form. -/
def IsReadable (value : Json) : Prop :=
  (object? value).isSome

theorem isReadable_object_iff : IsReadable (.object members) ↔
    (metadata? .metadata members).isSome := by
  rw [IsReadable, object?, Option.isSome_map]

theorem metadata?_congr {type : Schema} {others : Fields Json}
    (h : Fields.get? members "metadata" = Fields.get? others "metadata") :
    metadata? type members = metadata? type others := by
  rw [metadata?, metadata?, h]

/-- **Normal forms are readable.** -/
theorem isReadable_object? (h : object? value = some object) : IsReadable object := by
  cases value with
  | object members =>
    obtain ⟨metadata, hmetadata, rfl⟩ := Option.map_eq_some_iff.mp h
    have hagain := Schema.isStable_metadata.read _ _ hmetadata
    simp [isReadable_object_iff, metadata?, Fields.get?_insert, hagain]
  | _ => cases h

theorem isObject_object? (h : object? value = some object) : object.isObject = true := by
  cases value with
  | object members =>
    obtain ⟨metadata, -, rfl⟩ := Option.map_eq_some_iff.mp h
    rfl
  | _ => cases h

/-- **A patch that does not name the metadata** keeps an object readable. -/
theorem IsReadable.merge (h : IsReadable value)
    (hmetadata : Fields.get? entries "metadata" = none) :
    IsReadable (value.merge (.object entries)) := by
  cases value with
  | object members =>
    rw [isReadable_object_iff] at h
    have hsame := @Json.get?_mergeMembers_of_notMem members entries "metadata"
      (Fields.get?_eq_none_iff.mp hmetadata)
    rw [Json.merge_object, isReadable_object_iff, Json.members, metadata?_congr hsame]
    exact h
  | _ => cases h

/-- The normal form of an object keeps everything but its type and its metadata. -/
theorem at?_object? (h : object? value = some object) (hversion : key ≠ "apiVersion")
    (hkind : key ≠ "kind") (hmetadata : key ≠ "metadata") :
    object.at? (key :: path) = value.at? (key :: path) := by
  cases value with
  | object members =>
    obtain ⟨metadata, -, rfl⟩ := Option.map_eq_some_iff.mp h
    simp only [Json.at?_cons, Json.member?_object, Fields.get?_insert, if_neg hmetadata.symm]
    split
    · rfl
    · rw [Fields.get?_erase_of_ne hkind.symm, Fields.get?_erase_of_ne hversion.symm]
  | _ => cases h

/-- **The normal form of an object keeps its metadata**, each member in the normal form of its
type. -/
theorem at?_metadata_object? {type : Schema} {found : Json} (h : object? value = some object)
    (hmember : ∃ types, Schema.metadata = .record types ∧ (key, none, type) ∈ types)
    (hfound : value.at? ["metadata", key] = some found) (hnull : found.isNull = false) :
    ∃ normal, type.read? found = some normal ∧ object.at? ["metadata", key] = some normal := by
  cases value with
  | object members =>
    obtain ⟨metadata, hmetadata, rfl⟩ := Option.map_eq_some_iff.mp h
    obtain ⟨inner, hinner, hinside⟩ := Option.bind_eq_some_iff.mp hfound
    rw [Json.member?_object] at hinner
    rw [metadata?, hinner, Option.getD_some] at hmetadata
    cases inner with
    | object fields =>
      obtain ⟨found', hfound', hnil⟩ := Option.bind_eq_some_iff.mp hinside
      cases hnil
      obtain ⟨types, htypes, hmember⟩ := hmember
      have hnodup : (types.map Prod.fst).Nodup := by
        cases htypes
        decide
      rw [htypes] at hmetadata
      have hpresent := Schema.present?_of_get? hfound' hnull
      have hread := Schema.member?_read?_record hnodup hmetadata hmember hpresent
      obtain ⟨normal, hnormal⟩ := Option.isSome_iff_exists.mp (Schema.read?_record_isSome_iff.mp
        (Option.isSome_of_mem hmetadata) _ hmember _ hpresent)
      refine ⟨normal, hnormal, ?_⟩
      simp [Fields.get?_insert, hread, hnormal]
    | _ => cases hinside
  | _ => cases h

/-- **The normal form of an object keeps its name.** -/
theorem name_object? {name : String} (h : object? value = some object)
    (hname : value.textAt? ["metadata", "name"] = some name) :
    object.textAt? ["metadata", "name"] = some name := by
  obtain ⟨found, hfound, htext⟩ := Option.bind_eq_some_iff.mp hname
  cases found with
  | text content =>
    -- The name is a text, and so its own normal form.
    obtain ⟨normal, hnormal, hat⟩ := at?_metadata_object? h
      ⟨_, rfl, show ("name", none, Schema.text) ∈ _ by simp [Schema.optional]⟩ hfound rfl
    cases hnormal
    rw [Json.textAt?, hat]
    exact htext
  | _ => cases htext

/-- **The normal form of an object keeps its labels.** -/
theorem label_object? {label : String} (h : object? value = some object)
    (hlabel : value.textAt? ["metadata", "labels", key] = some label) :
    object.textAt? ["metadata", "labels", key] = some label := by
  have hsplit : ∀ value : Json, value.at? ["metadata", "labels", key] =
      (value.at? ["metadata", "labels"]).bind fun labels => labels.at? [key] := by
    intro value
    simp only [Json.at?_cons, Json.at?_nil, Option.bind_assoc, Option.bind_some]
  obtain ⟨found, hfound, htext⟩ := Option.bind_eq_some_iff.mp hlabel
  rw [hsplit] at hfound
  obtain ⟨labels, hlabels, hinside⟩ := Option.bind_eq_some_iff.mp hfound
  cases labels with
  | object members =>
    -- Labels are texts, and so their own normal form.
    obtain ⟨normal, hnormal, hat⟩ := at?_metadata_object? h
      ⟨_, rfl, show ("labels", none, Schema.texts) ∈ _ by simp [Schema.optional]⟩ hlabels rfl
    have hsame : normal = .object members := by
      simp only [Schema.read?, Schema.texts?] at hnormal
      split at hnormal
      · exact (Option.some.inj hnormal).symm
      · cases hnormal
    rw [Json.textAt?, hsplit, hat, hsame, Option.bind_some, hinside]
    exact htext
  | _ => cases hinside

/-! ## Records after a patch -/

/-- **A patch fits a type** when it turns `null` and every value of the type into one of the
type. -/
structure Fits (type : Schema) (entry : Json) : Prop where
  ne_null : entry ≠ .null
  read : ∀ value, value = .null ∨ (type.read? value).isSome →
    (type.read? (value.merge entry)).isSome

theorem fits_text (content : String) : Fits .text (.text content) where
  ne_null := by simp
  read _ _ := rfl

@[simp] theorem isSome_texts?_ofTexts (texts : Fields String) :
    (Schema.texts? (.ofTexts texts)).isSome := by
  simp [Json.ofTexts, Schema.texts?, Json.text?]

/-- A patch of texts puts in texts only. -/
theorem mem_mergeMembers {texts : Fields String} {entry : String × Json}
    (h : entry ∈ Json.mergeMembers members (Json.ofTexts texts).members) :
    entry ∈ members ∨ (entry.2.text?).isSome := by
  induction texts generalizing members with
  | nil => exact .inl h
  | cons text rest ih =>
    have hcons : (Json.ofTexts (text :: rest)).members =
        (text.1, .text text.2) :: (Json.ofTexts rest).members := by
      rfl
    rw [hcons, Json.mergeMembers_cons, if_neg (by simp)] at h
    rcases ih h with hmem | htext
    · rcases Fields.eq_or_mem_of_mem_insert hmem with rfl | hmem
      · exact .inr rfl
      · exact .inl hmem
    · exact .inr htext

theorem fits_texts (texts : Fields String) : Fits .texts (.ofTexts texts) where
  ne_null := by simp [Json.ofTexts]
  read value h := by
    have hmembers : ∀ entry ∈ value.members, (entry.2.text?).isSome := by
      rcases h with rfl | h
      · simp [Json.members]
      · cases value with
        | object members =>
          simp only [Schema.read?, Schema.texts?] at h
          split at h
          · next hall => exact List.all_eq_true.mp hall
          · cases h
        | _ => cases h
    have hmerged : ∀ entry ∈ Json.mergeMembers value.members (Json.ofTexts texts).members,
        (entry.2.text?).isSome := by
      intro entry hentry
      rcases mem_mergeMembers hentry with hmem | htext
      · exact hmembers entry hmem
      · exact htext
    show (Schema.texts? (.object
      (Json.mergeMembers value.members (Json.ofTexts texts).members))).isSome
    rw [Schema.texts?]
    split
    · rfl
    · next hnot => exact absurd (List.all_eq_true.mpr hmerged) hnot

/-- **A record stays readable** when all entries of a patch fit their members. -/
theorem isSome_read?_mergeMembers {types : List (String × Option Json × Schema)}
    (hord : Fields.IsOrdered entries)
    (hfits : ∀ member ∈ types, ∀ entry, Fields.get? entries member.1 = some entry →
      Fits member.2.2 entry)
    (h : ((Schema.record types).read? (.object members)).isSome) :
    ((Schema.record types).read? (.object (Json.mergeMembers members entries))).isSome := by
  rw [Schema.read?_record_isSome_iff] at h ⊢
  intro member hmember value hvalue
  cases hentry : Fields.get? entries member.1 with
  | none =>
    -- the member is the one that was there
    rw [Schema.present?, Json.get?_mergeMembers_of_notMem (Fields.get?_eq_none_iff.mp hentry)]
      at hvalue
    exact h member hmember value hvalue
  | some entry =>
    -- the member is merged with the one that was there, or with `null`
    have hentryFits := hfits member hmember entry hentry
    rw [Schema.present?, Json.get?_mergeMembers_of_get? hord hentry hentryFits.ne_null,
      Option.filter_eq_some_iff] at hvalue
    obtain ⟨hmerged, -⟩ := hvalue
    cases hmerged
    refine hentryFits.read _ ?_
    cases hpresent : Fields.get? members member.1 with
    | none => exact .inl rfl
    | some present =>
      by_cases hnull : present = .null
      · exact .inl hnull
      · refine .inr (h member hmember present (Schema.present?_of_get? hpresent ?_))
        cases present <;> simp_all [Json.isNull]

/-- **A patch of the metadata** that keeps metadata readable keeps objects readable. -/
theorem IsReadable.merge_metadata {patch : Fields Json} (h : IsReadable (.object members))
    (hord : Fields.IsOrdered entries)
    (hentry : Fields.get? entries "metadata" = some (.object patch))
    (hpatch : ∀ present, (Schema.metadata.read? (.object present)).isSome →
      (Schema.metadata.read? (.object (Json.mergeMembers present patch))).isSome) :
    IsReadable ((Json.object members).merge (.object entries)) := by
  rw [isReadable_object_iff, metadata?] at h
  rw [Json.merge_object, isReadable_object_iff, metadata?,
    Json.get?_mergeMembers_of_get? hord hentry (by simp), Option.getD_some, Json.merge_object]
  refine hpatch _ ?_
  rw [Json.members]
  -- Missing metadata count as empty ones, in the patch too.
  cases hmetadata : Fields.get? members "metadata" with
  | none =>
    rw [hmetadata] at h
    exact h
  | some metadata =>
    rw [hmetadata, Option.getD_some] at h
    cases metadata with
    | object present => exact h
    | _ => cases h

end VmProvisioning.Api
