import VmProvisioning.Proofs.Json.MergePatch

/-!
# What is found in a document

The readers of documents take everything that is missing or of another type as empty. What they
read is told here by what stands at a path, so that later statements need not name the readers.

## Main definitions

* `Json.IsContentOf`: the content of what is found, or a default

## Main results

* `isContentOf_iff`: what a reader with a default reads
* `isContentOf_text_iff`, `isContentOf_bool_iff`, `isContentOf_array_iff`,
  `exists_isContentOf_object_iff`: the readers along paths
* `nonEmptyTextAt?_eq_some_iff`, `nonEmptyTextAt?_eq_some_text_iff`: texts that are not empty
-/

namespace VmProvisioning.Json

/-! ## Content -/

section Content

variable {α : Type} {form : α → Json} {default content : α} {found : Option Json}

/-- **The content of what is found**, when it has a form, and a default when nothing is found or
something of another form. -/
inductive IsContentOf (form : α → Json) (default : α) (found : Option Json) : α → Prop
  | found {content : α} : found = some (form content) → IsContentOf form default found content
  | missing : (∀ content, found ≠ some (form content)) → IsContentOf form default found default

/-- A reader of a form, with a default, reads the content. -/
theorem isContentOf_iff {read : Json → Option α}
    (hread : ∀ value content, read value = some content ↔ value = form content) :
    IsContentOf form default found content ↔ (found.bind read).getD default = content := by
  constructor
  · rintro (rfl | hmissing)
    · rw [Option.bind_some, (hread _ _).mpr rfl, Option.getD_some]
    · cases hbind : found.bind read with
      | none => rfl
      | some other =>
        obtain ⟨value, rfl, hvalue⟩ := Option.bind_eq_some_iff.mp hbind
        exact absurd (congrArg some ((hread _ _).mp hvalue)) (hmissing other)
  · rintro rfl
    cases hbind : found.bind read with
    | none =>
      refine .missing fun other hother => ?_
      rw [hother, Option.bind_some, (hread _ _).mpr rfl] at hbind
      cases hbind
    | some other =>
      obtain ⟨value, rfl, hvalue⟩ := Option.bind_eq_some_iff.mp hbind
      exact .found (congrArg some ((hread _ _).mp hvalue))

end Content

/-! ## Readers along paths -/

variable {value : Json} {key : String} {path : List String}

theorem text?_eq_some_iff (value : Json) (text : String) :
    value.text? = some text ↔ value = .text text := by
  cases value <;> simp [text?]

theorem bool?_eq_some_iff (value : Json) (flag : Bool) :
    value.bool? = some flag ↔ value = .bool flag := by
  cases value <;> simp [bool?]

/-- A text that is not empty. -/
theorem nonEmptyTextAt?_eq_some_iff {text : String} :
    value.nonEmptyTextAt? path = some text ↔ value.textAt? path = some text ∧ text ≠ "" := by
  simp [nonEmptyTextAt?, Option.filter_eq_some_iff]

theorem nonEmptyTextAt?_eq_some_text_iff {text : String} :
    value.nonEmptyTextAt? path = some text ↔ value.at? path = some (.text text) ∧ text ≠ "" := by
  rw [nonEmptyTextAt?_eq_some_iff, textAt?, Option.bind_eq_some_iff]
  simp [text?_eq_some_iff]

theorem isContentOf_text_iff {text : String} :
    IsContentOf .text "" (value.at? path) text ↔ (value.textAt? path).getD "" = text :=
  isContentOf_iff text?_eq_some_iff

theorem isContentOf_bool_iff {flag : Bool} :
    IsContentOf .bool false (value.at? path) flag ↔ (value.boolAt? path).getD false = flag :=
  isContentOf_iff bool?_eq_some_iff

/-- The items at a path are those of the array that is found there. -/
theorem isContentOf_array_iff {items : List Json} :
    IsContentOf .array [] (value.at? path) items ↔ value.itemsAt path = items := by
  rw [itemsAt]
  split
  · next others hothers =>
    rw [hothers]
    constructor
    · rintro (⟨⟨⟩⟩ | hmissing)
      · rfl
      · exact absurd rfl (hmissing others)
    · rintro rfl
      exact .found rfl
  · next hothers =>
    constructor
    · rintro (hfound | -)
      · exact absurd hfound (hothers _)
      · rfl
    · rintro rfl
      exact .missing hothers

/-- The texts at a path are those of the object that is found there. -/
theorem exists_isContentOf_object_iff {texts : Fields String} :
    (∃ members, IsContentOf .object [] (value.at? path) members ∧
      texts = members.filterMap fun (key, member) => member.text?.map fun text => (key, text)) ↔
        value.textsAt path = texts := by
  rw [textsAt]
  split
  · next members hmembers =>
    rw [hmembers]
    constructor
    · rintro ⟨others, ⟨⟨⟩⟩ | hmissing, rfl⟩
      · rfl
      · exact absurd rfl (hmissing members)
    · rintro rfl
      exact ⟨members, .found rfl, rfl⟩
  · next hothers =>
    constructor
    · rintro ⟨others, hfound | -, rfl⟩
      · exact absurd hfound (hothers _)
      · rfl
    · rintro rfl
      exact ⟨[], .missing hothers, rfl⟩

/-! ## What readers depend on -/

section Congr

variable {other : Json} (h : value.at? path = other.at? path)

include h

theorem nonEmptyTextAt?_congr : value.nonEmptyTextAt? path = other.nonEmptyTextAt? path := by
  rw [nonEmptyTextAt?, nonEmptyTextAt?, textAt?, textAt?, h]

theorem boolAt?_congr : value.boolAt? path = other.boolAt? path := by
  rw [boolAt?, boolAt?, h]

theorem itemsAt_congr : value.itemsAt path = other.itemsAt path := by
  rw [itemsAt, itemsAt, h]

theorem textsAt_congr : value.textsAt path = other.textsAt path := by
  rw [textsAt, textsAt, h]

end Congr

/-- A value that is no object holds nothing. -/
theorem at?_cons_of_not_isObject (h : value.isObject = false) : value.at? (key :: path) = none := by
  cases value with
  | object members => cases h
  | _ => rfl

end VmProvisioning.Json
