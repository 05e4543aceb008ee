import VmProvisioning.Json.Record
import VmProvisioning.Proofs.Fields

/-!
# Records that are read back

A record is read from the object it is written as. What a reader finds in an object depends only
on what is looked up there, so members that are left out and members that nobody asks for make no
difference.

## Main definitions

* `Json.RecordReader.Finds`: what a reader finds in an object
* `Json.RecordReader.Yields`: what all values of a reader have in common
* `Json.reencode?`: read a value and write it again
* `Json.IsStable`: what was read is written as an object that is read again

## Main results

* `uint32?_ofUInt32`, `list?_map`, `textFields?_ofTexts`: the values of fields are read back
* `RecordReader.finds_required`, `RecordReader.finds_defaulted`, `RecordReader.finds_optional`: the
  fields of an object are found
* `RecordReader.Finds.record?_ofMembers`: a record is read back
* `RecordReader.Yields.of_record?`: what a record has that was read from anything
* `IsStable.of_read_write`: a format is stable when what was read is read back
-/

namespace VmProvisioning.Json

variable {α β : Type} {name : String} {read : Json → Option α} {write : α → Json}
  {members : Fields Json} {value : α}

/-! ## Members that are written -/

@[simp]
theorem reverse_ofOptional (name : String) (write : α → Json) (value : Option α) :
    (ofOptional name write value).reverse = ofOptional name write value := by
  cases value with
  | none => rfl
  | some value => rfl

@[simp]
theorem get?_ofOptional (name key : String) (write : α → Json) (value : Option α) :
    Fields.get? (ofOptional name write value) key =
      if name = key then value.map write else none := by
  cases value with
  | none => simp [ofOptional, Fields.get?]
  | some value => simp [ofOptional, Fields.get?]

/-! ## Values of fields -/

theorem text?_text (content : String) : (text content).text? = some content :=
  rfl

theorem isNull_text (content : String) : (text content).isNull = false :=
  rfl

theorem bool?_bool (content : Bool) : (bool content).bool? = some content :=
  rfl

theorem uint32?_ofUInt32 (number : UInt32) : (ofUInt32 number).uint32? = some number := by
  have hbound : (number.toNat : Int) < (Nat.pow 2 32 : Nat) := by exact_mod_cast number.toNat_lt
  rw [ofUInt32, uint32?, uint?, if_pos ⟨Int.natCast_nonneg _, hbound⟩]
  simp

/-- Values that are each read back are read back together. -/
theorem mapM_map_eq_some {γ : Type} {read : γ → Option α} {write : α → γ}
    (hread : ∀ value, read (write value) = some value) (values : List α) :
    (values.map write).mapM read = some values := by
  induction values with
  | nil => rfl
  | cons value values ih => rw [List.map_cons, List.mapM_cons, hread, ih]; rfl

theorem list?_map (hread : ∀ value, read (write value) = some value) (values : List α) :
    list? read (.array (values.map write)) = some values :=
  mapM_map_eq_some hread values

theorem textFields?_ofTexts (texts : Fields String) :
    textFields? (ofTexts texts) = some texts := by
  rw [ofTexts, textFields?]
  apply mapM_map_eq_some
  rintro ⟨key, value⟩
  rfl

/-! ## Fields that are read -/

/-- **What a reader finds** among the members of an object. -/
def RecordReader.Finds (reader : RecordReader α) (members : Fields Json) (value : α) : Prop :=
  reader.run (.named members) = some (value, .named members)

namespace RecordReader

theorem finds_pure (members : Fields Json) (value : α) : Finds (pure value) members value :=
  rfl

theorem Finds.bind {reader : RecordReader α} {next : α → RecordReader β} {result : β}
    (h : Finds reader members value) (hnext : Finds (next value) members result) :
    Finds (reader >>= next) members result := by
  rw [Finds, StateT.run_bind, h]
  exact hnext

theorem finds_required {written : Json} (hread : read written = some value)
    (h : Fields.get? members name = some written) :
    Finds (required name read) members value := by
  change field name read none (.named members) = _
  simp only [field, h, hread, Option.map_some]

theorem finds_defaulted {absent : α} {written : Json} (hread : read written = some value)
    (h : Fields.get? members name = some written) :
    Finds (defaulted name read absent) members value := by
  change field name read (some absent) (.named members) = _
  simp only [field, h, hread, Option.map_some]

theorem finds_absent {absent : α} (h : Fields.get? members name = none) :
    Finds (defaulted name read absent) members absent := by
  change field name read (some absent) (.named members) = _
  simp only [field, h, Option.map_some]

/-- **A field that is left out when it has no value** is found without one. -/
theorem finds_optional {content : Option α}
    (hread : ∀ value, read (write value) = some value)
    (hnull : ∀ value, (write value).isNull = false)
    (h : Fields.get? members name = content.map write) :
    Finds (optional name read) members content := by
  change field name _ (some none) (.named members) = _
  cases content with
  | none => simp only [field, h, Option.map_none, Option.map_some]
  | some value => simp [field, h, hread, hnull]

/-- **A record is read back** when its reader finds it among the members that are written. -/
theorem Finds.record?_ofMembers {reader : RecordReader α} {entries : List (String × Json)}
    (h : Finds reader (Fields.ofList entries) value) :
    record? reader (ofMembers entries) = some value := by
  change (reader.run _).map Prod.fst = _
  rw [h, Option.map_some]

end RecordReader

/-! ## What readers yield -/

/-- **All values that a reader yields** have a property. -/
def RecordReader.Yields (reader : RecordReader α) (IsResult : α → Prop) : Prop :=
  ∀ row value rest, reader.run row = some (value, rest) → IsResult value

namespace RecordReader

theorem Yields.bind {reader : RecordReader α} {next : α → RecordReader β} {IsFirst : α → Prop}
    {IsResult : β → Prop} (hreader : Yields reader IsFirst)
    (hnext : ∀ value, IsFirst value → Yields (next value) IsResult) :
    Yields (reader >>= next) IsResult := by
  intro row result rest h
  rw [StateT.run_bind] at h
  obtain ⟨⟨value, between⟩, hfirst, hrest⟩ := Option.bind_eq_some_iff.mp h
  exact hnext value (hreader _ _ _ hfirst) _ _ _ hrest

theorem yields_pure {IsResult : α → Prop} (h : IsResult value) :
    Yields (pure value) IsResult := by
  rintro row result rest ⟨⟩
  exact h

theorem yields_true (reader : RecordReader α) : Yields reader fun _ => True :=
  fun _ _ _ _ => trivial

/-- A field that has to be there is read from some value. -/
theorem yields_required (name : String) (read : Json → Option α) :
    Yields (required name read) fun value => ∃ written, read written = some value := by
  intro row value rest h
  change field name read none row = _ at h
  simp only [field] at h
  split at h
  · split at h
    · obtain ⟨result, hread, ⟨⟩⟩ := Option.map_eq_some_iff.mp h
      exact ⟨_, hread⟩
    · cases h
  · obtain ⟨result, hread, ⟨⟩⟩ := Option.map_eq_some_iff.mp h
    exact ⟨_, hread⟩
  · cases h

/-- A record has what its reader yields, whether it is read from an object or from an array. -/
theorem Yields.of_record? (IsResult : α → Prop) {reader : RecordReader α} {json : Json}
    (h : Yields reader IsResult) (hread : record? reader json = some value) : IsResult value := by
  cases json with
  | object members =>
    obtain ⟨⟨result, rest⟩, hrun, rfl⟩ := Option.map_eq_some_iff.mp hread
    exact h _ _ _ hrun
  | array items =>
    simp only [record?] at hread
    split at hread
    · next result hrun =>
      cases hread
      exact h _ _ _ hrun
    · cases hread
  | _ => cases hread

end RecordReader

/-! ## Stable formats -/

/-- **Read a value and write it again.** -/
def reencode? (read : Json → Option α) (write : α → Json) (json : Json) : Option Json :=
  (read json).map write

/-- **A format is stable**: a value that was read from anything is written as an object, which is
read as what is shown of the value; and to read and write once more makes no difference. -/
structure IsStable (read : Json → Option α) (write : α → Json) (shown : α → α) : Prop where
  isObject : ∀ json value, read json = some value → (write value).isObject = true
  read_write : ∀ json value, read json = some value → read (write value) = some (shown value)
  reencode? : ∀ json, (Json.reencode? read write json).bind (Json.reencode? read write) =
    Json.reencode? read write json

/-- A format is stable when what can be read is read back, and what is not shown is not written. -/
theorem IsStable.of_read_write {shown : α → α}
    (hobject : ∀ value, (write value).isObject = true)
    (hread : ∀ json value, read json = some value → read (write value) = some (shown value))
    (hshown : ∀ value, write (shown value) = write value) : IsStable read write shown where
  isObject _ value _ := hobject value
  read_write := hread
  reencode? json := by
    cases h : read json with
    | none => simp [Json.reencode?, h]
    | some value => simp [Json.reencode?, h, hread json value h, hshown]

end VmProvisioning.Json
