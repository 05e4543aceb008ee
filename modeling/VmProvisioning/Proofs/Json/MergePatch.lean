import VmProvisioning.Json.MergePatch
import VmProvisioning.Proofs.Fields

/-!
# Values after merge patches

A merge patch changes what it names and nothing else: a path that the patch leaves alone has the
same value before and after it, and a path that the patch sets has the value of the patch.

## Main definitions

* `Json.Apart`: neither of two paths leads through the other
* `Json.Leaves`: a patch does not go down a path
* `Json.Sets`: a patch puts a value at the end of a path

## Main results

* `at?_merge_of_leaves`: paths that a patch leaves alone
* `at?_merge_of_sets`: paths that a patch sets
-/

namespace VmProvisioning.Json

variable {members entries : Fields Json} {key : String} {path : List String}
  {target patch entry value : Json}

/-! ## Paths -/

@[simp] theorem at?_nil : value.at? [] = some value := by
  rfl

@[simp] theorem at?_cons :
    value.at? (key :: path) = (value.member? key).bind fun inner => inner.at? path := by
  rfl

@[simp] theorem member?_object : (object members).member? key = Fields.get? members key := by
  rfl

theorem member?_eq_get?_members (value : Json) (key : String) :
    value.member? key = Fields.get? value.members key := by
  cases value <;> rfl

/-- **Two paths are apart** when neither leads through the other. -/
def Apart (path other : List String) : Prop :=
  ¬ path <+: other ∧ ¬ other <+: path

instance (path other : List String) : Decidable (Apart path other) :=
  inferInstanceAs (Decidable (_ ∧ _))

/-! ## Members -/

/-- Every entry of a patch puts in a member or removes one. -/
theorem mergeMembers_cons (entry : Json) (rest : List (String × Json)) :
    mergeMembers members ((key, entry) :: rest) =
      if entry = null then mergeMembers (Fields.erase members key) rest
      else mergeMembers
        (Fields.insert members key (((Fields.get? members key).getD null).merge entry)) rest := by
  cases entry <;> simp [mergeMembers]

/-- Members that a patch does not name stay. -/
theorem get?_mergeMembers_of_notMem (h : key ∉ Fields.keys entries) :
    Fields.get? (mergeMembers members entries) key = Fields.get? members key := by
  induction entries generalizing members with
  | nil => rfl
  | cons head rest ih =>
    obtain ⟨name, entry⟩ := head
    obtain ⟨hname, hrest⟩ : key ≠ name ∧ key ∉ Fields.keys rest := by
      simpa [Fields.keys] using h
    rw [mergeMembers_cons]
    split
    · rw [ih hrest, Fields.get?_erase_of_ne hname.symm]
    · rw [ih hrest, Fields.get?_insert, if_neg hname.symm]

/-- A member that a patch names is merged. -/
theorem get?_mergeMembers_of_get? (hord : Fields.IsOrdered entries)
    (hentry : Fields.get? entries key = some entry) (hne : entry ≠ null) :
    Fields.get? (mergeMembers members entries) key =
      some (((Fields.get? members key).getD null).merge entry) := by
  induction entries generalizing members with
  | nil => cases hentry
  | cons head rest ih =>
    obtain ⟨name, other⟩ := head
    obtain ⟨hhead, hrest⟩ := List.pairwise_cons.mp hord
    rw [mergeMembers_cons]
    by_cases hname : name = key
    -- no later entry names the member again
    · subst hname
      obtain rfl : other = entry := by simpa [Fields.get?] using hentry
      rw [if_neg hne, get?_mergeMembers_of_notMem fun hmem => (hhead name hmem).ne rfl,
        Fields.get?_insert, if_pos rfl]
    · have hentry : Fields.get? rest key = some entry := by
        simpa [Fields.get?, hname] using hentry
      split
      · rw [ih hrest hentry, Fields.get?_erase_of_ne hname]
      · rw [ih hrest hentry, Fields.get?_insert, if_neg hname]

/-! ## Paths after a patch -/

@[simp] theorem merge_object :
    target.merge (object entries) = object (mergeMembers target.members entries) := by
  rfl

/-- **A patch leaves a path alone** when it does not name a member of it. -/
inductive Leaves : (patch : Json) → (path : List String) → Prop
  | absent {entries : Fields Json} {key : String} {path : List String}
      (habsent : Fields.get? entries key = none) : Leaves (object entries) (key :: path)
  | inside {entries : Fields Json} {key : String} {path : List String} {entry : Json}
      (hord : Fields.IsOrdered entries) (hentry : Fields.get? entries key = some entry)
      (hleaves : Leaves entry path) : Leaves (object entries) (key :: path)

/-- **A patch sets a path** to a value that is no object. -/
inductive Sets (value : Json) : (patch : Json) → (path : List String) → Prop
  | here (hobject : value.isObject = false) (hnull : value ≠ null) : Sets value value []
  | inside {entries : Fields Json} {key : String} {path : List String} {entry : Json}
      (hord : Fields.IsOrdered entries) (hentry : Fields.get? entries key = some entry)
      (hsets : Sets value entry path) : Sets value (object entries) (key :: path)

theorem Leaves.ne_null (h : Leaves patch path) : patch ≠ null := by
  cases h with
  | absent => simp
  | inside => simp

theorem Sets.ne_null (h : Sets value patch path) : patch ≠ null := by
  cases h with
  | here _ hnull => exact hnull
  | inside => simp

/-- **A path that a patch leaves alone** has the value it had. -/
theorem at?_merge_of_leaves (h : Leaves patch path) :
    (target.merge patch).at? path = target.at? path := by
  induction h generalizing target with
  | absent habsent =>
    rw [merge_object, at?_cons, at?_cons, member?_object,
      get?_mergeMembers_of_notMem (Fields.get?_eq_none_iff.mp habsent), member?_eq_get?_members]
  | @inside entries key path entry hord hentry hleaves ih =>
    rw [merge_object, at?_cons, at?_cons, member?_object,
      get?_mergeMembers_of_get? hord hentry hleaves.ne_null, member?_eq_get?_members,
      Option.bind_some, ih]
    -- A missing member is merged as `null`, from which no path leads anywhere either.
    cases Fields.get? target.members key with
    | some present => rfl
    | none => cases hleaves <;> rfl

/-- **A path that a patch sets** has the value of the patch. -/
theorem at?_merge_of_sets (h : Sets value patch path) :
    (target.merge patch).at? path = some value := by
  induction h generalizing target with
  | here hobject =>
    cases value with
    | object => cases hobject
    | _ => rfl
  | inside hord hentry hsets ih =>
    rw [merge_object, at?_cons, member?_object,
      get?_mergeMembers_of_get? hord hentry hsets.ne_null, Option.bind_some, ih]

end VmProvisioning.Json
