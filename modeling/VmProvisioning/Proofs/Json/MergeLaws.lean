import VmProvisioning.Proofs.Json.MergePatch

/-!
# Laws of merge patches

Values keep the members of their objects in order, and so does every patch of them. On such values
a patch that is repeated changes nothing more, and patches that have no end in common may change
places. What a patch does to a path is said by its ends: a path that is one of them is set, and a
path that is apart from all of them is left alone.

## Main definitions

* `Json.IsOrdered`: the objects in a value have their members in order
* `Json.mergeMember?`: what becomes of one member
* `Json.AreIndependent`: two patches that do not meet
* `Json.ends`: the paths in a value as far as they go, with the values there

## Main results

* `get?_mergeMembers`: the members of a patched object, one by one
* `merge_merge_self`: a patch again
* `merge_comm_of_areIndependent`: patches in another order
* `at?_merge_of_mem_ends`, `at?_merge_of_null_mem_ends`, `at?_merge_of_apart`: the paths that are
  set, cleared and left alone
* `merge_eq_self_of_ends`: a patch whose ends are in place
-/

namespace VmProvisioning.Json

variable {members entries others : Fields Json} {key : String} {path : List String}
  {target patch other entry value : Json}

/-! ## Ordered values -/

/-- **A value as it is kept**: the objects along its paths have their members in order. -/
inductive IsOrdered : Json → Prop
  | plain {value : Json} (hobject : value.isObject = false) : IsOrdered value
  | object {members : Fields Json} (hord : Fields.IsOrdered members)
      (hmembers : ∀ key member, Fields.get? members key = some member → IsOrdered member) :
    IsOrdered (object members)

@[simp] theorem members_object : (object members).members = members := by
  rfl

theorem members_of_isObject_eq_false (h : value.isObject = false) : value.members = [] := by
  cases value with
  | object members => cases h
  | _ => rfl

theorem IsOrdered.isOrdered_members (h : value.IsOrdered) : Fields.IsOrdered value.members := by
  cases h with
  | plain hobject =>
    rw [members_of_isObject_eq_false hobject]
    exact Fields.isOrdered_nil
  | object hord hmembers => exact hord

theorem IsOrdered.get? (h : value.IsOrdered) {member : Json}
    (hmember : Fields.get? value.members key = some member) : member.IsOrdered := by
  cases h with
  | plain hobject =>
    rw [members_of_isObject_eq_false hobject] at hmember
    cases hmember
  | object hord hmembers => exact hmembers key member hmember

/-- The members of an ordered value make an ordered object. -/
theorem IsOrdered.object_members (h : value.IsOrdered) : (Json.object value.members).IsOrdered :=
  .object h.isOrdered_members fun _ _ => h.get?

theorem IsOrdered.getD_get? (h : value.IsOrdered) (key : String) :
    ((Fields.get? value.members key).getD null).IsOrdered := by
  cases hmember : Fields.get? value.members key with
  | none => exact .plain rfl
  | some member => exact h.get? hmember

theorem IsOrdered.insert (h : (Json.object members).IsOrdered) (key : String)
    (hvalue : value.IsOrdered) : (Json.object (Fields.insert members key value)).IsOrdered := by
  refine .object h.isOrdered_members.insert ?_
  intro name member hmember
  rw [Fields.get?_insert] at hmember
  split at hmember
  · cases hmember
    exact hvalue
  · exact h.get? hmember

theorem IsOrdered.erase (h : (Json.object members).IsOrdered) (key : String) :
    (Json.object (Fields.erase members key)).IsOrdered := by
  have hord : Fields.IsOrdered members := h.isOrdered_members
  refine .object hord.erase ?_
  intro name member hmember
  rw [Fields.get?_erase hord] at hmember
  split at hmember
  · cases hmember
  · exact h.get? hmember

/-- An object that is made of ordered members is ordered, whatever their order is. -/
theorem isOrdered_ofMembers {list : List (String × Json)}
    (h : ∀ member ∈ list, member.2.IsOrdered) : (ofMembers list).IsOrdered := by
  refine .object (Fields.isOrdered_ofList _) ?_
  intro key member hget
  rw [Fields.get?_ofList] at hget
  exact h (key, member) (List.mem_reverse.mp (Fields.mem_of_get?_eq_some hget))

theorem isOrdered_ofTexts {texts : Fields String} (h : Fields.IsOrdered texts) :
    (ofTexts texts).IsOrdered := by
  refine .object ?_ ?_
  · simpa [Fields.IsOrdered, Fields.keys, Function.comp_def] using h
  · intro key member hget
    obtain ⟨content, -, heq⟩ := List.mem_map.mp (Fields.mem_of_get?_eq_some hget)
    cases heq
    exact .plain rfl

theorem isOrdered_nest (h : value.IsOrdered) (path : List String) :
    (nest path value).IsOrdered := by
  induction path with
  | nil => exact h
  | cons key path ih =>
    refine .object (by simp [Fields.IsOrdered, Fields.keys]) ?_
    intro name member hget
    obtain ⟨-, rfl⟩ : key = name ∧ nest path value = member :=
      Option.ite_none_right_eq_some.mp hget |>.imp_right Option.some.inj
    exact ih

/-! ## Members after a patch -/

/-- What becomes of a member under the entry of a patch for it. -/
def mergeMember? : (present entry : Option Json) → Option Json
  | present, none => present
  | _, some null => none
  | present, some entry => some ((present.getD null).merge entry)

theorem mergeMember?_of_ne_null {present : Option Json} (h : entry ≠ null) :
    mergeMember? present (some entry) = some ((present.getD null).merge entry) := by
  cases entry with
  | null => exact absurd rfl h
  | _ => rfl

theorem merge_of_isObject_eq_false (h : patch.isObject = false) : target.merge patch = patch := by
  cases patch with
  | object entries => cases h
  | _ => rfl

theorem isOrdered_mergeMembers (h : Fields.IsOrdered members) (entries : Fields Json) :
    Fields.IsOrdered (mergeMembers members entries) := by
  induction entries generalizing members with
  | nil => exact h
  | cons head rest ih =>
    obtain ⟨name, entry⟩ := head
    rw [mergeMembers_cons]
    split
    · exact ih h.erase
    · exact ih h.insert

/-- **The members of a patched object**, one by one, in whatever order the entries come. -/
theorem get?_mergeMembers_of_nodup (h : Fields.IsOrdered members)
    {pairs : List (String × Json)} (hpairs : (Fields.keys pairs).Nodup) (key : String) :
    Fields.get? (mergeMembers members pairs) key =
      mergeMember? (Fields.get? members key) (Fields.get? pairs key) := by
  -- Induction on the entries, from any members: each one changes the member that it names.
  induction pairs generalizing members with
  | nil => rfl
  | cons head rest ih =>
    obtain ⟨name, entry⟩ := head
    obtain ⟨hfresh, hrest⟩ := List.nodup_cons.mp hpairs
    rw [mergeMembers_cons]
    by_cases hname : name = key
    -- no later entry names the member again
    · subst hname
      have hnone : Fields.get? rest name = none := Fields.get?_eq_none_iff.mpr hfresh
      rw [Fields.get?_cons_self]
      split
      · next hnull =>
        rw [ih h.erase hrest, hnone, hnull, Fields.get?_erase h, if_pos rfl]
        rfl
      · next hne =>
        rw [ih h.insert hrest, hnone, mergeMember?_of_ne_null hne, Fields.get?_insert, if_pos rfl]
        rfl
    · rw [Fields.get?_cons_of_ne hname]
      split
      · rw [ih h.erase hrest, Fields.get?_erase_of_ne hname]
      · rw [ih h.insert hrest, Fields.get?_insert, if_neg hname]

theorem get?_mergeMembers (h : Fields.IsOrdered members) (hentries : Fields.IsOrdered entries)
    (key : String) : Fields.get? (mergeMembers members entries) key =
      mergeMember? (Fields.get? members key) (Fields.get? entries key) :=
  get?_mergeMembers_of_nodup h hentries.nodup_keys key

/-- **A patched value is ordered.** -/
theorem IsOrdered.merge (h : target.IsOrdered) (hpatch : patch.IsOrdered) :
    (target.merge patch).IsOrdered := by
  -- Induction on the patch: a member is as it was, or it is patched by an entry.
  induction hpatch generalizing target with
  | @plain patch hobject =>
    rw [merge_of_isObject_eq_false hobject]
    exact .plain hobject
  | @object entries hord hentries ih =>
    rw [merge_object]
    refine .object (isOrdered_mergeMembers h.isOrdered_members entries) ?_
    intro key member hmember
    rw [get?_mergeMembers h.isOrdered_members hord] at hmember
    cases hentry : Fields.get? entries key with
    | none =>
      rw [hentry] at hmember
      exact h.get? hmember
    | some entry =>
      rw [hentry] at hmember
      by_cases hnull : entry = null
      · rw [hnull] at hmember
        cases hmember
      · rw [mergeMember?_of_ne_null hnull] at hmember
        cases hmember
        exact ih key entry hentry (h.getD_get? key)

/-! ## Patches again and in another order -/

/-- **A patch again** changes nothing more. -/
theorem merge_merge_self (h : target.IsOrdered) (hpatch : patch.IsOrdered) :
    (target.merge patch).merge patch = target.merge patch := by
  -- Induction on the patch: a member that it names is patched again.
  induction hpatch generalizing target with
  | plain hobject => rw [merge_of_isObject_eq_false hobject, merge_of_isObject_eq_false hobject]
  | @object entries hord hentries ih =>
    have hmerged : Fields.IsOrdered (mergeMembers target.members entries) :=
      isOrdered_mergeMembers h.isOrdered_members entries
    simp only [merge_object, members_object]
    refine congrArg Json.object ((isOrdered_mergeMembers hmerged entries).ext hmerged ?_)
    intro key
    rw [get?_mergeMembers hmerged hord, get?_mergeMembers h.isOrdered_members hord]
    cases hentry : Fields.get? entries key with
    | none => rfl
    | some entry =>
      by_cases hnull : entry = null
      · rw [hnull]
        rfl
      · rw [mergeMember?_of_ne_null hnull, mergeMember?_of_ne_null hnull, Option.getD_some,
          ih key entry hentry (h.getD_get? key)]

/-- **Two patches are independent** when they are objects that name no member both, but for members
that they patch independently. -/
inductive AreIndependent : (patch other : Json) → Prop
  | object {entries others : Fields Json}
      (hboth : ∀ key entry other, Fields.get? entries key = some entry →
        Fields.get? others key = some other → AreIndependent entry other) :
    AreIndependent (object entries) (object others)

/-- **Independent patches** may change places. -/
theorem merge_comm_of_areIndependent (h : target.IsOrdered) (hpatch : patch.IsOrdered)
    (hother : other.IsOrdered) (hindependent : AreIndependent patch other) :
    (target.merge patch).merge other = (target.merge other).merge patch := by
  -- Induction on the independence, from any target: below a member that both name the patches are
  -- independent again, and it does not matter what stands there.
  induction hindependent generalizing target with
  | @object entries others hboth ih =>
    have hentries : Fields.IsOrdered entries := hpatch.isOrdered_members
    have hothers : Fields.IsOrdered others := hother.isOrdered_members
    have hfirst := isOrdered_mergeMembers h.isOrdered_members entries
    have hsecond := isOrdered_mergeMembers h.isOrdered_members others
    simp only [merge_object, members_object]
    refine congrArg Json.object ((isOrdered_mergeMembers hfirst others).ext
      (isOrdered_mergeMembers hsecond entries) ?_)
    intro key
    rw [get?_mergeMembers hfirst hothers, get?_mergeMembers h.isOrdered_members hentries,
      get?_mergeMembers hsecond hentries, get?_mergeMembers h.isOrdered_members hothers]
    cases hentry : Fields.get? entries key with
    | none => rfl
    | some entry =>
      cases hadded : Fields.get? others key with
      | none => rfl
      | some added =>
        -- A member that both name is patched by two objects.
        have hinside := hboth key entry added hentry hadded
        have hne : entry ≠ null ∧ added ≠ null := by
          cases hinside
          exact ⟨nofun, nofun⟩
        rw [mergeMember?_of_ne_null hne.1, mergeMember?_of_ne_null hne.2,
          mergeMember?_of_ne_null hne.1, mergeMember?_of_ne_null hne.2, Option.getD_some,
          Option.getD_some, ih key entry added hentry hadded (h.getD_get? key)
            (hpatch.get? hentry) (hother.get? hadded)]

/-! ## The ends of a patch -/

mutual

/-- **The ends of a value**: the paths in it as far as they go, with the values there. -/
def ends : Json → List (List String × Json)
  | object (member :: members) => endsOfMembers (member :: members)
  | value => [([], value)]

/-- The ends of the members of an object. -/
def endsOfMembers : List (String × Json) → List (List String × Json)
  | [] => []
  | (key, value) :: rest =>
    value.ends.map (fun (path, inner) => (key :: path, inner)) ++ endsOfMembers rest

end

theorem ends_of_isObject_eq_false (h : value.isObject = false) : value.ends = [([], value)] := by
  cases value with
  | object members => cases h
  | _ => rfl

theorem mem_endsOfMembers_iff {path : List String} :
    (path, value) ∈ endsOfMembers entries ↔ ∃ key entry inner, (key, entry) ∈ entries ∧
      path = key :: inner ∧ (inner, value) ∈ entry.ends := by
  induction entries with
  | nil => simp [endsOfMembers]
  | cons head rest ih =>
    obtain ⟨name, first⟩ := head
    rw [endsOfMembers, List.mem_append, ih, List.mem_map]
    constructor
    · rintro (⟨⟨inner, _⟩, hinner, heq⟩ | ⟨key, entry, inner, hmem, heq, hinner⟩)
      · cases heq
        exact ⟨name, first, inner, List.mem_cons_self, rfl, hinner⟩
      · exact ⟨key, entry, inner, List.mem_cons_of_mem _ hmem, heq, hinner⟩
    · rintro ⟨key, entry, inner, hmem, rfl, hinner⟩
      rcases List.mem_cons.mp hmem with heq | hmem
      · cases heq
        exact .inl ⟨(inner, value), hinner, rfl⟩
      · exact .inr ⟨key, entry, inner, hmem, rfl, hinner⟩

/-- A path into a member is an end of an object when it is one of the member. -/
theorem mem_ends_object_iff (h : Fields.get? entries key = some entry)
    (hord : Fields.IsOrdered entries) :
    (key :: path, value) ∈ (object entries).ends ↔ (path, value) ∈ entry.ends := by
  have hne : entries ≠ [] := by
    rintro rfl
    cases h
  obtain ⟨first, rest, rfl⟩ := List.exists_cons_of_ne_nil hne
  rw [ends, mem_endsOfMembers_iff]
  constructor
  · rintro ⟨name, other, inner, hmem, heq, hinner⟩
    obtain ⟨rfl, rfl⟩ := List.cons_eq_cons.mp heq
    rw [hord.get?_eq_some_iff.mpr hmem] at h
    cases h
    exact hinner
  · intro hinner
    exact ⟨key, entry, path, Fields.mem_of_get?_eq_some h, rfl, hinner⟩

/-- Every value has an end. -/
theorem exists_mem_ends (value : Json) (h : value.IsOrdered) :
    ∃ path inner, (path, inner) ∈ value.ends := by
  -- Follow the first member of every object down.
  induction h with
  | @plain value hobject =>
    rw [ends_of_isObject_eq_false hobject]
    exact ⟨[], _, List.mem_singleton.mpr rfl⟩
  | @object members hord hmembers ih =>
    cases members with
    | nil => exact ⟨[], _, List.mem_singleton.mpr rfl⟩
    | cons first rest =>
      obtain ⟨key, member⟩ := first
      obtain ⟨path, inner, hinner⟩ := ih key member Fields.get?_cons_self
      exact ⟨key :: path, inner, (mem_ends_object_iff Fields.get?_cons_self hord).mpr hinner⟩

/-- **A path apart from the ends of a patch** is left alone by it. -/
theorem leaves_of_apart (hpatch : patch.IsOrdered)
    (h : ∀ final ∈ patch.ends, Apart path final.1) : Leaves patch path := by
  -- Induction on the patch: the path leaves it where there is no entry, or goes on below one. It
  -- cannot end within the patch, as some end lies further down.
  induction hpatch generalizing path with
  | @plain patch hobject =>
    exfalso
    refine (h ([], patch) ?_).2 (List.nil_prefix)
    rw [ends_of_isObject_eq_false hobject]
    exact List.mem_singleton.mpr rfl
  | @object entries hord hentries ih =>
    cases path with
    | nil =>
      obtain ⟨path, inner, hmem⟩ := exists_mem_ends (object entries) (.object hord hentries)
      exact absurd List.nil_prefix (h _ hmem).1
    | cons key path =>
      cases hentry : Fields.get? entries key with
      | none => exact .absent hentry
      | some entry =>
        refine .inside hord hentry (ih key entry hentry ?_)
        rintro ⟨inner, value⟩ hinner
        obtain ⟨hfirst, hsecond⟩ := h (key :: inner, value)
          ((mem_ends_object_iff hentry hord).mpr hinner)
        exact ⟨fun hprefix => hfirst (List.cons_prefix_cons.mpr ⟨rfl, hprefix⟩),
          fun hprefix => hsecond (List.cons_prefix_cons.mpr ⟨rfl, hprefix⟩)⟩

/-- **A path apart from the ends of a patch** has the value it had. -/
theorem at?_merge_of_apart (hpatch : patch.IsOrdered)
    (h : ∀ final ∈ patch.ends, Apart path final.1) :
    (target.merge patch).at? path = target.at? path :=
  at?_merge_of_leaves (leaves_of_apart hpatch h)

theorem sets_of_mem_ends (hpatch : patch.IsOrdered) (h : (path, value) ∈ patch.ends)
    (hobject : value.isObject = false) (hnull : value ≠ null) : Sets value patch path := by
  induction hpatch generalizing path with
  | @plain patch hplain =>
    rw [ends_of_isObject_eq_false hplain, List.mem_singleton] at h
    cases h
    exact .here hobject hnull
  | @object entries hord hentries ih =>
    cases entries with
    | nil =>
      obtain ⟨-, rfl⟩ := Prod.mk.inj (List.mem_singleton.mp h)
      cases hobject
    | cons first rest =>
      rw [ends] at h
      obtain ⟨key, entry, inner, hmem, rfl, hinner⟩ := mem_endsOfMembers_iff.mp h
      have hentry := hord.get?_eq_some_iff.mpr hmem
      exact .inside hord hentry (ih key entry hentry hinner)

/-- **An end of a patch** has the value that it has in the patch. -/
theorem at?_merge_of_mem_ends (hpatch : patch.IsOrdered) (h : (path, value) ∈ patch.ends)
    (hobject : value.isObject = false) (hnull : value ≠ null) :
    (target.merge patch).at? path = some value :=
  at?_merge_of_sets (sets_of_mem_ends hpatch h hobject hnull)

/-- **A null in a patch** leaves nothing where it stands. -/
theorem at?_merge_of_null_mem_ends (h : target.IsOrdered) (hpatch : patch.IsOrdered)
    (hobject : patch.isObject = true) (hnull : (path, null) ∈ patch.ends) :
    (target.merge patch).at? path = none := by
  -- Induction on the patch: on the way to the null every entry is an object, so it is merged and
  -- not put in as it is.
  induction hpatch generalizing target path with
  | plain hplain =>
    rw [hplain] at hobject
    cases hobject
  | @object entries hord hentries ih =>
    cases entries with
    | nil =>
      obtain ⟨-, hnull⟩ := Prod.mk.inj (List.mem_singleton.mp hnull)
      cases hnull
    | cons first rest =>
      rw [ends] at hnull
      obtain ⟨key, entry, inner, hmem, rfl, hinner⟩ := mem_endsOfMembers_iff.mp hnull
      have hentry := hord.get?_eq_some_iff.mpr hmem
      rw [merge_object, at?_cons, member?_object, get?_mergeMembers h.isOrdered_members hord,
        hentry]
      by_cases hne : entry = null
      · rw [hne]
        rfl
      · rw [mergeMember?_of_ne_null hne, Option.bind_some]
        refine ih key entry hentry (h.getD_get? key) ?_ hinner
        cases entry with
        | object entries => rfl
        | null => exact absurd rfl hne
        | _ => simp [ends] at hinner

/-- Where the ends of a patch are in place, each of its entries has a member with the ends of the
entry in place. -/
theorem exists_member_of_ends (hord : Fields.IsOrdered entries)
    (hends : ∀ final ∈ (object entries).ends, final.2 ≠ null ∧ target.at? final.1 = some final.2)
    (hentry : Fields.get? entries key = some entry) (hinside : entry.IsOrdered) :
    entry ≠ null ∧ ∃ member, target.member? key = some member ∧
      ∀ final ∈ entry.ends, final.2 ≠ null ∧ member.at? final.1 = some final.2 := by
  have hbelow (inner : List String) (value : Json) (hinner : (inner, value) ∈ entry.ends) :
      value ≠ null ∧ ((target.member? key).bind fun member => member.at? inner) = some value :=
    hends (key :: inner, value) ((mem_ends_object_iff hentry hord).mpr hinner)
  refine ⟨?_, ?_⟩
  · rintro rfl
    exact (hbelow [] null (List.mem_singleton.mpr rfl)).1 rfl
  · -- the entry has an end, to which the path leads through the member
    obtain ⟨path, value, hmem⟩ := exists_mem_ends entry hinside
    obtain ⟨member, hmember, -⟩ := Option.bind_eq_some_iff.mp (hbelow path value hmem).2
    refine ⟨member, hmember, ?_⟩
    rintro ⟨inner, value⟩ hinner
    have hat := hbelow inner value hinner
    rw [hmember] at hat
    exact hat

/-- **A patch whose ends are in place** changes nothing. -/
theorem merge_eq_self_of_ends (h : target.IsOrdered) (hpatch : patch.IsOrdered)
    (hends : ∀ final ∈ patch.ends, final.2 ≠ null ∧ target.at? final.1 = some final.2) :
    target.merge patch = target := by
  -- Induction on the patch: every member that it names is there, and stays as it is.
  induction hpatch generalizing target with
  | @plain patch hobject =>
    rw [ends_of_isObject_eq_false hobject] at hends
    obtain ⟨-, hat⟩ := hends _ (List.mem_singleton.mpr rfl)
    rw [merge_of_isObject_eq_false hobject]
    exact (Option.some.inj hat).symm
  | @object entries hord hentries ih =>
    cases entries with
    | nil =>
      obtain ⟨-, hat⟩ := hends ([], object []) (List.mem_singleton.mpr rfl)
      obtain rfl : target = object [] := Option.some.inj hat
      rfl
    | cons first rest =>
      have hpresent (key : String) (entry : Json)
          (hentry : Fields.get? (first :: rest) key = some entry) :=
        exists_member_of_ends hord hends hentry (hentries key entry hentry)
      obtain ⟨-, found, hfound, -⟩ := hpresent first.1 first.2 Fields.get?_cons_self
      cases target with
      | object members =>
        rw [merge_object, members_object]
        refine congrArg Json.object ((isOrdered_mergeMembers h.isOrdered_members _).ext
          h.isOrdered_members ?_)
        intro key
        rw [get?_mergeMembers h.isOrdered_members hord, members_object]
        cases hentry : Fields.get? (first :: rest) key with
        | none => rfl
        | some entry =>
          obtain ⟨hne, member, hmember, hbelow⟩ := hpresent key entry hentry
          rw [member?_object] at hmember
          rw [mergeMember?_of_ne_null hne, hmember, Option.getD_some,
            ih key entry hentry (h.get? hmember) hbelow]
      | _ => cases hfound

end VmProvisioning.Json
