import VmProvisioning.Api.Schema
import VmProvisioning.Proofs.Fields
import VmProvisioning.Proofs.Timestamp

/-!
# Normal forms of typed values

The normal form of a value of a type is a value of that type again, and its own normal form. This
holds for all types whose records have members with different names, and with defaults that are
normal forms themselves.

## Main definitions

* `Schema.present?`: the member of a record, where `null` counts as missing
* `Schema.IsStable`: normal forms of a type stay as they are

## Main results

* `read?_record_isSome_iff`: a record is readable when every member that is present is
* `member?_read?_record`: the members of a normal form
* `isStable_record`: records of stable types are stable
* `isStable_metadata`: the metadata of objects are stable
-/

namespace VmProvisioning.Schema

variable {name : String} {absent : Option Json} {type : Schema} {members : Fields Json}
  {types : List (String × Option Json × Schema)} {value normal : Json}

/-! ## Records -/

/-- The member of a record, where `null` counts as missing. -/
def present? (members : Fields Json) (name : String) : Option Json :=
  (Fields.get? members name).filter (!·.isNull)

theorem readMembers?_cons :
    readMembers? ((name, absent, type) :: types) members =
      (readMembers? types members).bind fun rest =>
        match present? members name with
        | some value => (type.read? value).map fun normal => (name, normal) :: rest
        | none => some ((absent.map fun value => (name, value)).toList ++ rest) := by
  rw [readMembers?]
  cases readMembers? types members with
  | none => rfl
  | some rest =>
    simp only [Option.bind_eq_bind, Option.bind_some]
    rw [← present?]
    cases present? members name with
    | none => rfl
    | some value => cases hread : read? type value <;> simp [hread]

theorem readMembers?_cons_isSome_iff :
    (readMembers? ((name, absent, type) :: types) members).isSome ↔
      (∀ value, present? members name = some value → (type.read? value).isSome) ∧
        (readMembers? types members).isSome := by
  rw [readMembers?_cons]
  cases readMembers? types members with
  | none => simp
  | some rest => cases present? members name <;> simp

theorem readMembers?_isSome_iff :
    (readMembers? types members).isSome ↔
      ∀ member ∈ types, ∀ value, present? members member.1 = some value →
        (member.2.2.read? value).isSome := by
  induction types with
  | nil => simp [readMembers?]
  | cons entry types ih => rw [readMembers?_cons_isSome_iff, ih, List.forall_mem_cons]

/-- **A record is readable** when every member that is present is. -/
theorem read?_record_isSome_iff :
    ((record types).read? (.object members)).isSome ↔
      ∀ member ∈ types, ∀ value, present? members member.1 = some value →
        (member.2.2.read? value).isSome := by
  rw [read?, Option.isSome_map, readMembers?_isSome_iff]

/-- The members of a normal form are among those of its type, in their order. -/
theorem keys_readMembers?_sublist {entries : List (String × Json)}
    (h : readMembers? types members = some entries) :
    (Fields.keys entries).Sublist (types.map Prod.fst) := by
  induction types generalizing entries with
  | nil =>
    cases h
    exact List.Sublist.slnil
  | cons entry types ih =>
    rw [readMembers?_cons] at h
    obtain ⟨rest, hrest, h⟩ := Option.bind_eq_some_iff.mp h
    split at h
    · obtain ⟨normal, -, rfl⟩ := Option.map_eq_some_iff.mp h
      exact (ih hrest).cons_cons _
    · cases h
      cases entry.2.1 with
      | none => exact (ih hrest).cons _
      | some value => exact (ih hrest).cons_cons _

theorem get?_readMembers? (hnodup : (types.map Prod.fst).Nodup)
    {entries : List (String × Json)} (h : readMembers? types members = some entries)
    (hmember : (name, absent, type) ∈ types) (hvalue : present? members name = some value) :
    Fields.get? entries name = type.read? value := by
  induction types generalizing entries with
  | nil => cases hmember
  | cons entry types ih =>
    obtain ⟨hfresh, hnodup⟩ := List.nodup_cons.mp hnodup
    rw [readMembers?_cons] at h
    obtain ⟨rest, hrest, h⟩ := Option.bind_eq_some_iff.mp h
    rcases List.mem_cons.mp hmember with rfl | hmember
    · rw [hvalue] at h
      obtain ⟨normal, hnormal, rfl⟩ := Option.map_eq_some_iff.mp h
      rw [Fields.get?, if_pos rfl, hnormal]
    -- the entries before that of the member have other names
    · have hne : entry.1 ≠ name := fun heq => hfresh (heq ▸ List.mem_map_of_mem hmember)
      split at h
      · obtain ⟨normal, -, rfl⟩ := Option.map_eq_some_iff.mp h
        rw [Fields.get?, if_neg hne, ih hnodup hrest hmember]
      · cases h
        rw [Fields.get?_append, ← ih hnodup hrest hmember]
        cases entry.2.1 with
        | none => rfl
        | some default => simp [Fields.get?, hne]

/-- **A member of a normal form** is the normal form of the member. -/
theorem member?_read?_record (hnodup : (types.map Prod.fst).Nodup)
    (h : (record types).read? (.object members) = some normal)
    (hmember : (name, absent, type) ∈ types) (hvalue : present? members name = some value) :
    normal.member? name = type.read? value := by
  obtain ⟨entries, hentries, rfl⟩ := Option.map_eq_some_iff.mp h
  have hkeys : (Fields.keys entries).Nodup :=
    hnodup.sublist (keys_readMembers?_sublist hentries)
  rw [Json.ofMembers, Json.member?, Fields.get?_ofList_of_nodup hkeys,
    get?_readMembers? hnodup hentries hmember hvalue]

/-! ## Stable types -/

/-- **Normal forms of a type stay as they are**, and are `null` for `null` only. -/
structure IsStable (type : Schema) : Prop where
  read : ∀ value normal, type.read? value = some normal → type.read? normal = some normal
  isNull : ∀ value normal, type.read? value = some normal → value.isNull = false →
    normal.isNull = false

/-- A member of a record is stable when its type is, and its default is a normal form. -/
structure IsStableMember (absent : Option Json) (type : Schema) : Prop where
  isStable : type.IsStable
  default : ∀ value ∈ absent, type.read? value = some value ∧ value.isNull = false

theorem present?_of_get? (h : Fields.get? members name = some value)
    (hnull : value.isNull = false) : present? members name = some value := by
  simp [present?, h, hnull]

/-- A record whose members are those of a normal form is read as the normal form. -/
theorem readMembers?_of_normal (hnodup : (types.map Prod.fst).Nodup)
    (hstable : ∀ member ∈ types, IsStableMember member.2.1 member.2.2)
    {entries : List (String × Json)} (h : readMembers? types members = some entries)
    {others : Fields Json}
    (hothers : ∀ name ∈ types.map Prod.fst, Fields.get? others name = Fields.get? entries name) :
    readMembers? types others = some entries := by
  induction types generalizing entries with
  | nil => exact h
  | cons entry types ih =>
    obtain ⟨name, absent, type⟩ := entry
    obtain ⟨hfresh, hnodup'⟩ := List.nodup_cons.mp hnodup
    have hmember : IsStableMember absent type := hstable _ List.mem_cons_self
    have hstable' := fun member hmem => hstable member (List.mem_cons_of_mem _ hmem)
    rw [readMembers?_cons] at h
    obtain ⟨rest, hrest, h⟩ := Option.bind_eq_some_iff.mp h
    have habsent : Fields.get? rest name = none :=
      Fields.get?_eq_none_iff.mpr fun hmem => hfresh ((keys_readMembers?_sublist hrest).subset hmem)
    -- The name of the first member is not used again, so the others are those of the rest.
    have hothers' : ∀ value, entries = (name, value) :: rest →
        readMembers? types others = some rest := by
      rintro value rfl
      refine ih hnodup' hstable' hrest fun other hother => ?_
      have hne : name ≠ other := fun heq => hfresh (heq ▸ hother)
      rw [hothers other (List.mem_cons_of_mem _ hother), Fields.get?, if_neg hne]
    have hfirst := hothers name List.mem_cons_self
    rw [readMembers?_cons]
    split at h
    -- the member is present, and its normal form stays as it is
    · next value hvalue =>
      obtain ⟨normal, hnormal, rfl⟩ := Option.map_eq_some_iff.mp h
      have hnull : value.isNull = false := by
        simpa using (Option.filter_eq_some_iff.mp hvalue).2
      rw [Fields.get?, if_pos rfl] at hfirst
      rw [hothers' normal rfl, present?_of_get? hfirst (hmember.isStable.isNull _ _ hnormal hnull)]
      simp [hmember.isStable.read _ _ hnormal]
    · cases absent with
      | none =>
        cases h
        -- the member is missing and has no default, so that it is missing again
        have hrest' := ih hnodup' hstable' hrest fun other hother =>
          hothers other (List.mem_cons_of_mem _ hother)
        have hmissing : present? others name = none := by
          simp [present?, hfirst, habsent]
        simp [hrest', hmissing]
      | some value =>
        cases h
        -- the default stands for the member, and is a normal form
        obtain ⟨hread, hnull⟩ := hmember.default value rfl
        simp only [Option.map_some, Option.toList_some, List.singleton_append, Fields.get?,
          if_true] at hfirst
        rw [hothers' value rfl, present?_of_get? hfirst hnull]
        simp [hread]

theorem isStable_record (hnodup : (types.map Prod.fst).Nodup)
    (hstable : ∀ member ∈ types, IsStableMember member.2.1 member.2.2) :
    (record types).IsStable where
  read value normal h := by
    cases value with
    | object members =>
      obtain ⟨entries, hentries, rfl⟩ := Option.map_eq_some_iff.mp h
      have hkeys : (Fields.keys entries).Nodup :=
        hnodup.sublist (keys_readMembers?_sublist hentries)
      rw [Json.ofMembers, read?, readMembers?_of_normal hnodup hstable hentries fun name _ =>
        Fields.get?_ofList_of_nodup hkeys]
      rfl
    | _ => cases h
  isNull value normal h _ := by
    cases value with
    | object members =>
      obtain ⟨entries, -, rfl⟩ := Option.map_eq_some_iff.mp h
      rfl
    | _ => cases h

/-- A type that keeps its values as they are is stable. -/
theorem isStable_of_eq
    (h : ∀ value normal, type.read? value = some normal → normal = value) : type.IsStable where
  read value normal hread := by
    obtain rfl := h value normal hread
    exact hread
  isNull value normal hread hnull := by
    obtain rfl := h value normal hread
    exact hnull

theorem isStable_any : any.IsStable :=
  isStable_of_eq fun _ _ h => (Option.some.inj h).symm

theorem isStable_text : text.IsStable :=
  isStable_of_eq fun value normal h => by
    cases value with
    | text content => exact (Option.some.inj h).symm
    | _ => cases h

theorem isStable_bool : bool.IsStable :=
  isStable_of_eq fun value normal h => by
    cases value with
    | bool content => exact (Option.some.inj h).symm
    | _ => cases h

theorem isStable_integer (bits : Nat) : (integer bits).IsStable :=
  isStable_of_eq fun value normal h => by
    cases value with
    | int number =>
      simp only [read?, integer?] at h
      split at h
      · exact (Option.some.inj h).symm
      · cases h
    | _ => cases h

theorem isStable_texts : texts.IsStable :=
  isStable_of_eq fun value normal h => by
    cases value with
    | object members =>
      simp only [read?, texts?] at h
      split at h
      · exact (Option.some.inj h).symm
      · cases h
    | _ => cases h

theorem isStable_time : time.IsStable where
  read value normal h := by
    obtain ⟨written, hwritten, rfl⟩ := Option.map_eq_some_iff.mp h
    obtain ⟨content, -, hnormal⟩ := Option.bind_eq_some_iff.mp hwritten
    have hagain := Timestamp.normalize?_of_eq_some hnormal
    simp [read?, time?, Json.text?, hagain]
  isNull value normal h _ := by
    obtain ⟨content, -, rfl⟩ := Option.map_eq_some_iff.mp h
    rfl

theorem mapM_read?_of_normal {item : Schema} (hitem : item.IsStable) {items normals : List Json}
    (h : items.mapM (fun value => item.read? value) = some normals) :
    normals.mapM (fun value => item.read? value) = some normals := by
  induction items generalizing normals with
  | nil =>
    cases h
    rfl
  | cons value items ih =>
    simp only [List.mapM_cons, Option.bind_eq_bind, Option.bind_eq_some_iff, Option.pure_def,
      Option.some.injEq] at h
    obtain ⟨normal, hnormal, rest, hrest, rfl⟩ := h
    simp [hitem.read _ _ hnormal, ih hrest]

theorem isStable_list {item : Schema} (hitem : item.IsStable) : (list item).IsStable where
  read value normal h := by
    cases value with
    | array items =>
      obtain ⟨normals, hnormals, rfl⟩ := Option.map_eq_some_iff.mp h
      simp [read?, mapM_read?_of_normal hitem hnormals]
    | _ => cases h
  isNull value normal h _ := by
    cases value with
    | array items =>
      obtain ⟨normals, -, rfl⟩ := Option.map_eq_some_iff.mp h
      rfl
    | _ => cases h

/-! ## The types in use -/

theorem isStableMember_none (h : type.IsStable) : IsStableMember none type :=
  ⟨h, by simp⟩

theorem isStableMember_empty : IsStableMember (some (.text "")) text :=
  ⟨isStable_text, by rintro value ⟨⟩; exact ⟨rfl, rfl⟩⟩

theorem isStable_ownerReference : ownerReference.IsStable :=
  isStable_record (by decide) (by
    simp [plain, optional, isStableMember_empty, isStableMember_none, isStable_bool])

theorem isStable_managedFields : managedFields.IsStable :=
  isStable_record (by decide) (by
    simp [optional, isStableMember_none, isStable_any, isStable_text, isStable_time])

/-- **The metadata of objects are stable.** -/
theorem isStable_metadata : metadata.IsStable :=
  isStable_record (by decide) (by
    simp [optional, isStableMember_none, isStable_integer, isStable_text, isStable_texts,
      isStable_time, isStable_list, isStable_managedFields, isStable_ownerReference])

end VmProvisioning.Schema
