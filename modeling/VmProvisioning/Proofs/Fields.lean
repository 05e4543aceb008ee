import Mathlib.Data.List.Dedup
import Mathlib.Data.List.Induction
import Mathlib.Data.String.Basic
import VmProvisioning.Fields

/-!
# Ordered fields as finite maps

What is read back after an insertion or a removal, and that both keep the order of the keys. On
ordered fields looking up a key and being an entry are the same.

## Main results

* `IsOrdered.insert`, `IsOrdered.erase`, `isOrdered_ofList`: the operations keep the order
* `get?_erase`, `get?_ofList`, `get?_foldl_insert`, `get?_insertMissing`: look-ups after the
  operations
* `get?_ofList_eq_getLast?`, `length_ofList_eq_length_iff`: which entries of a list are kept
* `IsOrdered.get?_eq_some_iff`: the entries are what can be looked up
* `IsOrdered.ext`: ordered fields are what can be looked up in them
-/

namespace VmProvisioning.Fields

variable {α β : Type} {fields : Fields α} {key other : String} {value : α}

/-! ## Entries -/

theorem get?_nil : get? ([] : Fields α) key = none := by
  rfl

theorem get?_cons_self {rest : Fields α} : get? ((key, value) :: rest) key = some value :=
  if_pos rfl

theorem get?_cons_of_ne {rest : Fields α} (h : key ≠ other) :
    get? ((key, value) :: rest) other = get? rest other :=
  if_neg h

theorem mem_of_get?_eq_some : ∀ {fields : Fields α}, get? fields key = some value →
    (key, value) ∈ fields := by
  intro fields
  induction fields with
  | nil => simp [get?]
  | cons entry rest ih =>
    obtain ⟨k, v⟩ := entry
    simp only [get?]
    split
    · rintro ⟨⟩
      simp_all
    · exact fun h => List.mem_cons_of_mem _ (ih h)

theorem get?_isSome_iff : (get? fields key).isSome ↔ key ∈ keys fields := by
  induction fields with
  | nil => simp [get?, keys]
  | cons entry rest ih =>
    simp only [get?, keys, List.map_cons, List.mem_cons] at ih ⊢
    split
    · next heq => simp [heq]
    · next hne => simp [ih, Ne.symm hne]

theorem get?_eq_none_iff : get? fields key = none ↔ key ∉ keys fields := by
  rw [← get?_isSome_iff, Option.not_isSome_iff_eq_none]

theorem get?_eq_some_of_mem (h : (keys fields).Nodup) (hmem : (key, value) ∈ fields) :
    get? fields key = some value := by
  induction fields with
  | nil => cases hmem
  | cons entry rest ih =>
    obtain ⟨hfresh, hrest⟩ := List.nodup_cons.mp h
    rcases List.mem_cons.mp hmem with rfl | hmem
    · exact get?_cons_self
    · have hkey : key ∈ keys rest := List.mem_map.mpr ⟨_, hmem, rfl⟩
      rw [get?_cons_of_ne (ne_of_mem_of_not_mem hkey hfresh).symm, ih hrest hmem]

theorem IsOrdered.nodup_keys (h : IsOrdered fields) : (keys fields).Nodup :=
  h.imp fun hlt => hlt.ne

/-- Look-ups do not depend on the order of the entries. -/
theorem get?_of_perm {others : Fields α} (h : (keys fields).Nodup) (hperm : fields.Perm others) :
    get? fields key = get? others key := by
  have hothers : (keys others).Nodup := (hperm.map Prod.fst).nodup_iff.mp h
  refine Option.ext fun value => ⟨fun hget => ?_, fun hget => ?_⟩
  · exact get?_eq_some_of_mem hothers (hperm.mem_iff.mp (mem_of_get?_eq_some hget))
  · exact get?_eq_some_of_mem h (hperm.mem_iff.mpr (mem_of_get?_eq_some hget))

/-- The order of the keys makes look-ups and entries the same. -/
theorem IsOrdered.get?_eq_some_iff (h : IsOrdered fields) :
    get? fields key = some value ↔ (key, value) ∈ fields :=
  ⟨mem_of_get?_eq_some, get?_eq_some_of_mem h.nodup_keys⟩

/-! ## Order -/

theorem isOrdered_nil : IsOrdered ([] : Fields α) :=
  List.Pairwise.nil

theorem mem_keys_insert : other ∈ keys (insert fields key value) ↔
    other = key ∨ other ∈ keys fields := by
  simp only [← get?_isSome_iff, get?_insert]
  split
  · next heq => simp [heq]
  · next hne => simp [Ne.symm hne]

theorem IsOrdered.insert (h : IsOrdered fields) : IsOrdered (insert fields key value) := by
  induction fields with
  | nil => simp [Fields.insert, IsOrdered, keys]
  | cons entry rest ih =>
    obtain ⟨k, v⟩ := entry
    obtain ⟨hhead, hrest⟩ := List.pairwise_cons.mp h
    simp only [Fields.insert]
    split
    · next heq => subst heq; exact List.pairwise_cons.mpr ⟨hhead, hrest⟩
    · next hne =>
      split
      -- the new entry stands before all others
      · next hlt =>
        refine List.pairwise_cons.mpr ⟨fun other hother => ?_, h⟩
        rcases List.mem_cons.mp hother with rfl | hother
        · exact hlt
        · exact hlt.trans (hhead other hother)
      -- the new entry stands further behind (induction)
      · next hnlt =>
        refine List.pairwise_cons.mpr ⟨fun other hother => ?_, ih hrest⟩
        rcases mem_keys_insert.mp hother with rfl | hother
        · exact lt_of_le_of_ne (not_lt.mp hnlt) hne
        · exact hhead other hother

theorem eq_or_mem_of_mem_insert {entry : String × α}
    (h : entry ∈ insert fields key value) : entry = (key, value) ∨ entry ∈ fields := by
  induction fields with
  | nil => exact .inl (List.mem_singleton.mp h)
  | cons head rest ih =>
    simp only [insert] at h
    split at h
    · rcases List.mem_cons.mp h with heq | hmem
      · exact .inl heq
      · exact .inr (List.mem_cons_of_mem _ hmem)
    · split at h
      · exact List.mem_cons.mp h
      · rcases List.mem_cons.mp h with rfl | hmem
        · exact .inr List.mem_cons_self
        · exact (ih hmem).imp_right (List.mem_cons_of_mem _)

theorem erase_sublist : (erase fields key).Sublist fields := by
  induction fields with
  | nil => exact List.Sublist.slnil
  | cons entry rest ih =>
    simp only [erase]
    split
    · exact List.sublist_cons_self _ _
    · exact ih.cons_cons _

/-- Nothing is removed under a key without a value. -/
theorem erase_of_get?_eq_none (h : get? fields key = none) : erase fields key = fields := by
  induction fields with
  | nil => rfl
  | cons entry rest ih =>
    obtain ⟨k, v⟩ := entry
    have hne : k ≠ key := by
      rintro rfl
      rw [get?_cons_self] at h
      cases h
    rw [get?_cons_of_ne hne] at h
    rw [erase, if_neg hne, ih h]

theorem IsOrdered.erase (h : IsOrdered fields) : IsOrdered (erase fields key) :=
  List.Pairwise.sublist (erase_sublist.map Prod.fst) h

/-! ## Look-ups -/

theorem get?_erase_of_ne (h : key ≠ other) : get? (erase fields key) other = get? fields other := by
  induction fields with
  | nil => rfl
  | cons entry rest ih =>
    simp only [erase]
    split
    · next heq => simp [get?, heq, h]
    · simp only [get?, ih]

theorem get?_erase (hord : IsOrdered fields) :
    get? (erase fields key) other = if key = other then none else get? fields other := by
  split
  · next heq =>
    -- The order leaves no second entry with the key.
    subst heq
    induction fields with
    | nil => rfl
    | cons entry rest ih =>
      obtain ⟨hhead, hrest⟩ := List.pairwise_cons.mp hord
      simp only [Fields.erase]
      split
      · next heq => exact get?_eq_none_iff.mpr fun hmem => (hhead key hmem).ne heq
      · next hne => simpa [get?, hne] using ih hrest
  · next hne => exact get?_erase_of_ne hne

theorem get?_append (first second : List (String × α)) :
    get? (first ++ second) key = (get? first key).or (get? second key) := by
  induction first with
  | nil => simp [get?]
  | cons entry rest ih =>
    simp only [List.cons_append, get?, ih]
    split
    · rfl
    · rfl

theorem length_insert_le : (insert fields key value).length ≤ fields.length + 1 := by
  induction fields with
  | nil => simp [insert]
  | cons entry rest ih =>
    simp only [insert]
    split
    · simp
    · split
      · simp
      · simpa using ih

theorem ofList_append_singleton (entries : List (String × α)) (entry : String × α) :
    ofList (entries ++ [entry]) = insert (ofList entries) entry.1 entry.2 := by
  rw [ofList, List.foldl_append]
  rfl

theorem isOrdered_ofList (entries : List (String × α)) : IsOrdered (ofList entries) := by
  induction entries using List.reverseRecOn with
  | nil => exact isOrdered_nil
  | append_singleton rest entry ih =>
    rw [ofList_append_singleton]
    exact ih.insert

/-- Of several entries with one key the last one counts. -/
theorem get?_ofList (entries : List (String × α)) :
    get? (ofList entries) key = get? entries.reverse key := by
  induction entries using List.reverseRecOn with
  | nil => rfl
  | append_singleton rest entry ih =>
    rw [ofList_append_singleton, get?_insert, ih, List.reverse_append]
    rfl

theorem get?_eq_head?_filter (fields : Fields α) (key : String) :
    get? fields key = ((fields.filter fun entry => entry.1 = key).head?).map Prod.snd := by
  induction fields with
  | nil => rfl
  | cons entry rest ih =>
    obtain ⟨name, value⟩ := entry
    by_cases hname : name = key
    · simp [get?, hname]
    · simp [get?, hname, ih]

theorem get?_ofList_eq_getLast? (entries : List (String × α)) (key : String) :
    get? (ofList entries) key =
      ((entries.filter fun entry => entry.1 = key).getLast?).map Prod.snd := by
  rw [get?_ofList, get?_eq_head?_filter, List.filter_reverse, List.head?_reverse]

theorem get?_ofList_of_nodup {entries : List (String × α)} (h : (keys entries).Nodup) :
    get? (ofList entries) key = get? entries key := by
  rw [get?_ofList]
  induction entries with
  | nil => rfl
  | cons entry rest ih =>
    obtain ⟨k, v⟩ := entry
    obtain ⟨hfresh, hrest⟩ := List.nodup_cons.mp h
    rw [List.reverse_cons, get?_append, ih hrest]
    simp only [get?]
    split
    · next heq =>
      subst heq
      rw [get?_eq_none_iff.mpr hfresh, Option.none_or]
    · rw [Option.or_none]

theorem mem_keys_ofList {entries : List (String × α)} :
    key ∈ keys (ofList entries) ↔ key ∈ keys entries := by
  rw [← get?_isSome_iff, get?_ofList, get?_isSome_iff, keys, keys, List.map_reverse,
    List.mem_reverse]

/-- A list of entries makes one entry for each of its keys. -/
theorem length_ofList (entries : List (String × α)) :
    (ofList entries).length = (keys entries).dedup.length := by
  have hperm : (keys (ofList entries)).Perm (keys entries).dedup := by
    refine (List.perm_ext_iff_of_nodup (isOrdered_ofList entries).nodup_keys
      (List.nodup_dedup _)).mpr fun key => ?_
    rw [mem_keys_ofList, List.mem_dedup]
  rw [← hperm.length_eq, keys, List.length_map]

/-- **All entries of a list are kept** just when their keys are different. -/
theorem length_ofList_eq_length_iff {entries : List (String × α)} :
    (ofList entries).length = entries.length ↔ (keys entries).Nodup := by
  have hlength : (keys entries).length = entries.length := List.length_map _
  rw [length_ofList, ← hlength, ← List.dedup_eq_self]
  refine ⟨(List.dedup_sublist _).eq_of_length, fun h => ?_⟩
  rw [h]

theorem IsOrdered.ext {others : Fields α} (h : IsOrdered fields) (hothers : IsOrdered others)
    (hget : ∀ key, get? fields key = get? others key) : fields = others := by
  have hpairs {entries : Fields α} (hord : IsOrdered entries) :
      entries.Pairwise fun first second => first.1 < second.1 :=
    List.pairwise_map.mp hord
  have hmem (entry : String × α) : entry ∈ fields ↔ entry ∈ others := by
    rw [← h.get?_eq_some_iff, ← hothers.get?_eq_some_iff, hget]
  have hperm : fields.Perm others := by
    refine (List.perm_ext_iff_of_nodup ?_ ?_).mpr hmem
    · exact (hpairs h).imp fun hlt heq => hlt.ne (congrArg Prod.fst heq)
    · exact (hpairs hothers).imp fun hlt heq => hlt.ne (congrArg Prod.fst heq)
  refine hperm.eq_of_pairwise ?_ (hpairs h) (hpairs hothers)
  intro first second _ _ hlt hgt
  exact absurd hgt hlt.asymm

/-- **Entries that are put over others** can be looked up, and the others where there are none. -/
theorem get?_foldl_insert (form : β → α) (entries : Fields β) (h : (keys entries).Nodup) :
    get? (entries.foldl (fun fields (name, value) => insert fields name (form value)) fields) key =
      ((get? entries key).map form).or (get? fields key) := by
  induction entries generalizing fields with
  | nil => rfl
  | cons entry rest ih =>
    obtain ⟨name, value⟩ := entry
    obtain ⟨hfresh, hrest⟩ := List.nodup_cons.mp h
    rw [List.foldl_cons, ih hrest, get?_insert]
    simp only [get?]
    split
    · next heq =>
      subst heq
      rw [get?_eq_none_iff.mpr hfresh]
      rfl
    · rfl

/-- **Entries that are put under missing keys** can be looked up where there was nothing before. -/
theorem get?_insertMissing (fields others : Fields α) (key : String) :
    get? (insertMissing fields others) key = (get? fields key).or (get? others key) := by
  induction others generalizing fields with
  | nil => simp [insertMissing, get?]
  | cons entry rest ih =>
    obtain ⟨name, value⟩ := entry
    have hstep : insertMissing fields ((name, value) :: rest) =
        insertMissing (if contains fields name then fields else insert fields name value) rest :=
      rfl
    rw [hstep, ih]
    by_cases hname : name = key
    · subst hname
      rw [get?_cons_self]
      cases hfound : get? fields name with
      | none => simp [contains, hfound, get?_insert]
      | some found => simp [contains, hfound]
    · rw [get?_cons_of_ne hname]
      split
      · rfl
      · rw [get?_insert, if_neg hname]

end VmProvisioning.Fields
