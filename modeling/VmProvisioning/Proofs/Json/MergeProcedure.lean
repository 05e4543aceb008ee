import VmProvisioning.Proofs.Json.MergeLaws

/-!
# The merge patch procedure

The standard of merge patches is a procedure on objects whose pairs come in no order. It goes
through the pairs of the patch one after the other. A pair with a `null` removes what the target has
under the name, and any other value is in turn a patch of what is there, or of nothing. Values as
they are kept have their members in order, and on those merging gives the one outcome of the
procedure, whatever order the pairs are taken in.

What a patch does to a path follows: a path keeps its value in every target just when it diverges
from all paths of the patch, and the path of a `null` leads nowhere any more.

## Main definitions

* `Json.MergesTo`: the outcomes of the procedure
* `Json.Diverges`: a path that diverges from every path in a value

## Main results

* `mergesTo_iff`: the outcome of the procedure
* `diverges_iff_forall_at?_merge`: the paths that a patch leaves alone in every target
* `at?_merge_of_at?_eq_null`: the paths of the nulls
* `mergesTo_iff_and_merge_again`: merging is the procedure, and what follows for a patch that is
  repeated and for the paths in a target
-/

namespace VmProvisioning.Json

variable {members entries outcome : Fields Json} {pairs : List (String × Json)} {name : String}
  {path : List String} {target patch value : Json}

/-! ## The procedure -/

mutual

/-- **The outcomes of the procedure** on a target, or on nothing where there is none. A patch that
is no object is the outcome. The pairs of an object change the members of the target, and where the
target is no object they start from none. -/
inductive MergesTo : (target : Option Json) → (patch outcome : Json) → Prop
  | replaced {target : Option Json} {patch : Json} (hpatch : patch.isObject = false) :
    MergesTo target patch patch
  | created {target : Option Json} {entries outcome : Fields Json} {pairs : List (String × Json)}
      (htarget : ∀ value ∈ target, value.isObject = false) (hpairs : pairs.Perm entries)
      (hmembers : MembersMergeTo [] pairs outcome) :
    MergesTo target (object entries) (object outcome)
  | merged {members entries outcome : Fields Json} {pairs : List (String × Json)}
      (hpairs : pairs.Perm entries) (hmembers : MembersMergeTo members pairs outcome) :
    MergesTo (some (object members)) (object entries) (object outcome)

/-- The outcomes of pairs that are taken in turn. A `null` removes a member if it is there, and any
other value is merged with the member, or with nothing where there is none. -/
inductive MembersMergeTo :
    (members : Fields Json) → (pairs : List (String × Json)) → (outcome : Fields Json) → Prop
  | done {members : Fields Json} : MembersMergeTo members [] members
  | removed {members outcome : Fields Json} {name : String} {pairs : List (String × Json)}
      (hpresent : name ∈ Fields.keys members)
      (hrest : MembersMergeTo (Fields.erase members name) pairs outcome) :
    MembersMergeTo members ((name, null) :: pairs) outcome
  | absent {members outcome : Fields Json} {name : String} {pairs : List (String × Json)}
      (habsent : name ∉ Fields.keys members) (hrest : MembersMergeTo members pairs outcome) :
    MembersMergeTo members ((name, null) :: pairs) outcome
  | set {members outcome : Fields Json} {name : String} {value merged : Json}
      {pairs : List (String × Json)} (hvalue : value ≠ null)
      (hmerged : MergesTo (Fields.get? members name) value merged)
      (hrest : MembersMergeTo (Fields.insert members name merged) pairs outcome) :
    MembersMergeTo members ((name, value) :: pairs) outcome

end

/-! ### One pair -/

/-- **A null** removes the member, if there is one. -/
theorem membersMergeTo_null_iff : MembersMergeTo members ((name, null) :: pairs) outcome ↔
    MembersMergeTo (Fields.erase members name) pairs outcome := by
  constructor
  · intro h
    cases h with
    | removed hpresent hrest => exact hrest
    | absent habsent hrest =>
      rwa [Fields.erase_of_get?_eq_none (Fields.get?_eq_none_iff.mpr habsent)]
    | set hvalue hmerged hrest => exact absurd rfl hvalue
  · intro h
    by_cases hpresent : name ∈ Fields.keys members
    · exact .removed hpresent h
    · rw [Fields.erase_of_get?_eq_none (Fields.get?_eq_none_iff.mpr hpresent)] at h
      exact .absent hpresent h

/-- **Any other value** is merged with the member. -/
theorem membersMergeTo_cons_iff (h : value ≠ null) :
    MembersMergeTo members ((name, value) :: pairs) outcome ↔
      ∃ merged, MergesTo (Fields.get? members name) value merged ∧
        MembersMergeTo (Fields.insert members name merged) pairs outcome := by
  constructor
  · intro hmembers
    cases hmembers with
    | removed => exact absurd rfl h
    | absent => exact absurd rfl h
    | set hvalue hmerged hrest => exact ⟨_, hmerged, hrest⟩
  · rintro ⟨merged, hmerged, hrest⟩
    exact .set h hmerged hrest

/-! ### All pairs -/

/-- **A run through pairs** merges them, when the procedure merges the value of each. -/
theorem membersMergeTo_iff (hmembers : (object members).IsOrdered)
    (hpairs : ∀ pair ∈ pairs, pair.2.IsOrdered ∧ ∀ target : Option Json,
      (∀ present ∈ target, present.IsOrdered) → ∀ merged,
        MergesTo target pair.2 merged ↔ merged = (target.getD null).merge pair.2) :
    MembersMergeTo members pairs outcome ↔ outcome = mergeMembers members pairs := by
  -- Induction on the pairs, from any ordered members: each pair leaves them ordered.
  induction pairs generalizing members with
  | nil =>
    constructor
    · rintro ⟨⟩
      rfl
    · rintro rfl
      exact .done
  | cons pair rest ih =>
    obtain ⟨name, value⟩ := pair
    obtain ⟨⟨hordered, hvalue⟩, hrest⟩ := List.forall_mem_cons.mp hpairs
    rw [mergeMembers_cons]
    split
    · next hnull =>
      rw [hnull, membersMergeTo_null_iff]
      exact ih (hmembers.erase name) hrest
    · next hne =>
      have hpresent : ∀ present ∈ Fields.get? members name, present.IsOrdered :=
        fun present hpresent => hmembers.get? hpresent
      have hmerged : (((Fields.get? members name).getD null).merge value).IsOrdered :=
        (hmembers.getD_get? name).merge hordered
      simp only [membersMergeTo_cons_iff hne, hvalue _ hpresent, exists_eq_left]
      exact ih (hmembers.insert name hmerged) hrest

/-- **The order of the pairs** does not matter. -/
theorem mergeMembers_of_perm (h : Fields.IsOrdered members) (hentries : Fields.IsOrdered entries)
    (hpairs : pairs.Perm entries) : mergeMembers members pairs = mergeMembers members entries := by
  have hnodup : (Fields.keys pairs).Nodup :=
    (hpairs.map Prod.fst).nodup_iff.mpr hentries.nodup_keys
  refine (isOrdered_mergeMembers h pairs).ext (isOrdered_mergeMembers h entries) fun key => ?_
  rw [get?_mergeMembers_of_nodup h hnodup, get?_mergeMembers h hentries,
    Fields.get?_of_perm hnodup hpairs]

/-! ### Objects -/

/-- The pairs of an object start from the members of the target, and a target that is no object has
none. -/
theorem mergesTo_object_iff {target : Option Json} {result : Json} :
    MergesTo target (object entries) result ↔
      ∃ pairs outcome, pairs.Perm entries ∧
        MembersMergeTo (target.getD null).members pairs outcome ∧ result = object outcome := by
  constructor
  · intro h
    cases h with
    | replaced hpatch => cases hpatch
    | created htarget hpairs hmembers =>
      have hnone : (target.getD null).members = [] := by
        cases target with
        | none => rfl
        | some value => exact members_of_isObject_eq_false (htarget value rfl)
      exact ⟨_, _, hpairs, hnone ▸ hmembers, rfl⟩
    | merged hpairs hmembers => exact ⟨_, _, hpairs, hmembers, rfl⟩
  · rintro ⟨pairs, outcome, hpairs, hmembers, rfl⟩
    rcases target with _ | value
    · exact .created nofun hpairs hmembers
    · cases value with
      | object members => exact .merged hpairs hmembers
      | _ => exact .created (by rintro _ ⟨⟩; rfl) hpairs hmembers

/-- **The procedure has one outcome**, the value that is merged, where nothing counts as `null`. -/
theorem mergesTo_iff (hpatch : patch.IsOrdered) {target : Option Json}
    (htarget : ∀ value ∈ target, value.IsOrdered) (result : Json) :
    MergesTo target patch result ↔ result = (target.getD null).merge patch := by
  -- Induction on the patch, for any target: the values of its pairs are patches of the members.
  induction hpatch generalizing target result with
  | @plain patch hobject =>
    rw [merge_of_isObject_eq_false hobject]
    constructor
    · intro h
      cases h with
      | replaced => rfl
      | created => cases hobject
      | merged => cases hobject
    · rintro rfl
      exact .replaced hobject
  | @object entries hord hentries ih =>
    have hpresent : (target.getD null).IsOrdered := by
      cases target with
      | none => exact .plain rfl
      | some value => exact htarget value rfl
    have hrun {pairs : List (String × Json)} {outcome : Fields Json}
        (hpairs : pairs.Perm entries) :
        MembersMergeTo (target.getD null).members pairs outcome ↔
          outcome = mergeMembers (target.getD null).members entries := by
      rw [← mergeMembers_of_perm hpresent.isOrdered_members hord hpairs]
      refine membersMergeTo_iff hpresent.object_members fun pair hpair => ?_
      have hentry : Fields.get? entries pair.1 = some pair.2 :=
        hord.get?_eq_some_iff.mpr (hpairs.mem_iff.mp hpair)
      exact ⟨hentries _ _ hentry, fun _ => ih _ _ hentry⟩
    rw [mergesTo_object_iff, merge_object]
    constructor
    · rintro ⟨pairs, outcome, hpairs, hmembers, rfl⟩
      rw [(hrun hpairs).mp hmembers]
    · rintro rfl
      exact ⟨entries, _, .refl entries, (hrun (.refl entries)).mpr rfl, rfl⟩

/-! ## Paths that diverge -/

/-- **A path diverges from a value** when it diverges from every path in it: it is on none of them,
and those that it goes along end in objects, where it goes on by another name. -/
def Diverges (path : List String) (value : Json) : Prop :=
  ∀ other inner, value.at? other = some inner →
    ¬ path <+: other ∧ (other <+: path → inner.isObject = true)

theorem leaves_of_diverges (hpatch : patch.IsOrdered) (h : Diverges path patch) :
    Leaves patch path := by
  induction path generalizing patch with
  | nil => exact absurd List.nil_prefix (h [] patch rfl).1
  | cons key path ih =>
    have hobject : patch.isObject = true := (h [] patch rfl).2 List.nil_prefix
    cases patch with
    | object entries =>
      cases hentry : Fields.get? entries key with
      | none => exact .absent hentry
      | some entry =>
        refine .inside hpatch.isOrdered_members hentry (ih (hpatch.get? hentry) ?_)
        intro other inner hinner
        have hat : (Json.object entries).at? (key :: other) = some inner := by
          rw [at?_cons, member?_object, hentry]
          exact hinner
        simpa only [List.cons_prefix_cons, true_and] using h (key :: other) inner hat
    | _ => cases hobject

theorem diverges_of_leaves (h : Leaves patch path) : Diverges path patch := by
  induction h with
  | @absent entries key path habsent =>
    intro other inner hinner
    cases other with
    | nil =>
      cases hinner
      exact ⟨by simp, fun _ => rfl⟩
    | cons name other =>
      have hne : name ≠ key := by
        rintro rfl
        rw [at?_cons, member?_object, habsent] at hinner
        cases hinner
      simp [List.cons_prefix_cons, hne, hne.symm]
  | @inside entries key path entry hord hentry hleaves ih =>
    intro other inner hinner
    cases other with
    | nil =>
      cases hinner
      exact ⟨by simp, fun _ => rfl⟩
    | cons name other =>
      by_cases hname : name = key
      · subst hname
        rw [at?_cons, member?_object, hentry] at hinner
        simpa only [List.cons_prefix_cons, true_and] using ih other inner hinner
      · simp [List.cons_prefix_cons, hname, Ne.symm hname]

theorem at?_nest : (nest path value).at? path = some value := by
  induction path with
  | nil => rfl
  | cons key path ih =>
    change ((Json.object [(key, nest path value)]).member? key).bind _ = _
    rw [member?_object, Fields.get?_cons_self]
    exact ih

/-- A path that has the same value in every patched target is one that the patch leaves alone. -/
theorem leaves_of_forall_at?_merge (hpatch : patch.IsOrdered)
    (h : ∀ target : Json, target.IsOrdered → (target.merge patch).at? path = target.at? path) :
    Leaves patch path := by
  -- Induction on the path: a patch that ends on it or before shows in a target that goes further.
  induction path generalizing patch with
  | nil =>
    have hnull : (null : Json).merge patch = null := Option.some.inj (h null (.plain rfl))
    have htext : (text "").merge patch = text "" := Option.some.inj (h (text "") (.plain rfl))
    cases patch with
    | object entries => cases hnull
    | _ => exact absurd (hnull.symm.trans htext) nofun
  | cons key path ih =>
    have hnest := h (nest (key :: path) null) (isOrdered_nest (.plain rfl) _)
    rw [at?_nest] at hnest
    cases patch with
    | object entries =>
      have hentries : Fields.IsOrdered entries := hpatch.isOrdered_members
      cases hentry : Fields.get? entries key with
      | none => exact .absent hentry
      | some entry =>
        -- what the entry does to a member shows in the object that has this member alone
        have hinside (inner : Json) (hinner : inner.IsOrdered) :
            ((mergeMember? (some inner) (some entry)).bind fun member => member.at? path) =
              inner.at? path := by
          have halone : (object [(key, inner)]).IsOrdered := isOrdered_nest hinner [key]
          have hmembers : Fields.IsOrdered [(key, inner)] := halone.isOrdered_members
          have hat := h _ halone
          rwa [merge_object, members_object, at?_cons, at?_cons, member?_object, member?_object,
            get?_mergeMembers hmembers hentries, hentry, Fields.get?_cons_self,
            Option.bind_some] at hat
        have hne : entry ≠ null := by
          rintro rfl
          have hgone := hinside (nest path null) (isOrdered_nest (.plain rfl) path)
          rw [at?_nest] at hgone
          cases hgone
        refine .inside hentries hentry (ih (hpatch.get? hentry) fun inner hinner => ?_)
        rw [← hinside inner hinner, mergeMember?_of_ne_null hne]
        rfl
    | _ => cases hnest

/-- **A path keeps its value in every target** just when it diverges from the patch. -/
theorem diverges_iff_forall_at?_merge (hpatch : patch.IsOrdered) :
    Diverges path patch ↔
      ∀ target : Json, target.IsOrdered → (target.merge patch).at? path = target.at? path := by
  constructor
  · intro h target htarget
    exact at?_merge_of_leaves (leaves_of_diverges hpatch h)
  · intro h
    exact diverges_of_leaves (leaves_of_forall_at?_merge hpatch h)

/-! ## Paths of nulls -/

/-- What stands at the end of a path in a value and is no object is an end of the value. -/
theorem mem_ends_of_at?_eq_some (hpatch : patch.IsOrdered) (h : patch.at? path = some value)
    (hobject : value.isObject = false) : (path, value) ∈ patch.ends := by
  induction path generalizing patch with
  | nil =>
    cases h
    rw [ends_of_isObject_eq_false hobject]
    exact List.mem_singleton.mpr rfl
  | cons key path ih =>
    obtain ⟨entry, hentry, hat⟩ := Option.bind_eq_some_iff.mp h
    cases patch with
    | object entries =>
      exact (mem_ends_object_iff hentry hpatch.isOrdered_members).mpr (ih (hpatch.get? hentry) hat)
    | _ => cases hentry

/-- **The path of a null** leads nowhere in a patched value. -/
theorem at?_merge_of_at?_eq_null (h : target.IsOrdered) (hpatch : patch.IsOrdered)
    (hobject : patch.isObject = true) (hnull : patch.at? path = some null) :
    (target.merge patch).at? path = none :=
  at?_merge_of_null_mem_ends h hpatch hobject (mem_ends_of_at?_eq_some hpatch hnull rfl)

/-! ## Merging by the procedure -/

/-- **Merging is the merge patch procedure**: it gives the one outcome that the procedure has on a
target and a patch, and keeps members in order. So a patch that is repeated changes nothing more, a
path that diverges from the patch has the value it had, and nothing is left where an object has a
`null`. -/
theorem mergesTo_iff_and_merge_again (htarget : target.IsOrdered) (hpatch : patch.IsOrdered) :
    (∀ result, MergesTo (some target) patch result ↔ result = target.merge patch) ∧
      (target.merge patch).IsOrdered ∧
      (target.merge patch).merge patch = target.merge patch ∧
      (∀ path, Diverges path patch → (target.merge patch).at? path = target.at? path) ∧
      (patch.isObject = true → ∀ path, patch.at? path = some null →
        (target.merge patch).at? path = none) := by
  refine ⟨fun result => ?_, htarget.merge hpatch, merge_merge_self htarget hpatch,
    fun path hpath => ?_, fun hobject path => at?_merge_of_at?_eq_null htarget hpatch hobject⟩
  · refine mergesTo_iff hpatch ?_ result
    rintro _ ⟨⟩
    exact htarget
  · exact (diverges_iff_forall_at?_merge hpatch).mp hpath target htarget

/-- A running machine with a text in the place of its metadata. -/
def runningObject : Json :=
  ofMembers [("metadata", .text "none"),
    ("spec", .ofMembers [("runStrategy", .text "Always"), ("running", .bool true),
      ("volumes", .array [])])]

/-- A patch with a null in an object that the target does not have, and one for a member that it
has. -/
def haltingPatch : Json :=
  ofMembers [("metadata", .ofMembers [("name", .text "web"), ("note", .null)]),
    ("spec", .ofMembers [("runStrategy", .text "Halted"), ("running", .null)])]

/-- The machine after the patch. -/
def haltedObject : Json :=
  ofMembers [("metadata", .ofMembers [("name", .text "web")]),
    ("spec", .ofMembers [("runStrategy", .text "Halted"), ("volumes", .array [])])]

theorem isOrdered_runningObject : runningObject.IsOrdered := by
  refine isOrdered_ofMembers ?_
  simp only [List.forall_mem_cons]
  refine ⟨.plain rfl, isOrdered_ofMembers ?_, nofun⟩
  simp only [List.forall_mem_cons]
  exact ⟨.plain rfl, .plain rfl, .plain rfl, nofun⟩

theorem isOrdered_haltingPatch : haltingPatch.IsOrdered := by
  refine isOrdered_ofMembers ?_
  simp only [List.forall_mem_cons]
  refine ⟨isOrdered_ofMembers ?_, isOrdered_ofMembers ?_, nofun⟩
  · simp only [List.forall_mem_cons]
    exact ⟨.plain rfl, .plain rfl, nofun⟩
  · simp only [List.forall_mem_cons]
    exact ⟨.plain rfl, .plain rfl, nofun⟩

theorem diverges_volumes_haltingPatch : Diverges ["spec", "volumes"] haltingPatch := by
  have hord := isOrdered_haltingPatch.isOrdered_members
  exact diverges_of_leaves (.inside hord rfl (.absent rfl))

/-- The text gives way to an object without the null, and the member of the other null is gone. -/
theorem mergesTo_haltedObject :
    runningObject.IsOrdered ∧ haltingPatch.IsOrdered ∧
      MergesTo (some runningObject) haltingPatch haltedObject ∧
      haltedObject.merge haltingPatch = haltedObject ∧
      haltedObject.at? ["spec", "volumes"] = some (.array []) ∧
      haltingPatch.at? ["metadata", "note"] = some .null ∧
      haltedObject.at? ["metadata", "note"] = none := by
  have hmerge : runningObject.merge haltingPatch = haltedObject := by decide
  have hnull : haltingPatch.at? ["metadata", "note"] = some .null := by rfl
  obtain ⟨hprocedure, -, hagain, hpaths, hnulls⟩ :=
    mergesTo_iff_and_merge_again isOrdered_runningObject isOrdered_haltingPatch
  rw [hmerge] at hprocedure hagain hpaths hnulls
  exact ⟨isOrdered_runningObject, isOrdered_haltingPatch, (hprocedure haltedObject).mpr rfl,
    hagain, hpaths _ diverges_volumes_haltingPatch, hnull, hnulls rfl _ hnull⟩

end VmProvisioning.Json
