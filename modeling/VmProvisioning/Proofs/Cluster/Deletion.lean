import VmProvisioning.Proofs.Cluster.Failing
import VmProvisioning.Proofs.Cluster.Retry

/-!
# What a deletion removes

A deletion removes the machine and precisely what belongs to it, from a store where objects are
kept where their names and kinds say. What is removed does not depend on how the loops of the kinds
take turns: until a loop has its list, nothing of its kind is deleted, and afterwards only what is
in the list.

## Main definitions

* `Store.IsFaithful`: objects are kept where their names and kinds say
* `Store.Belongs`, `Store.IsRidOf`: what is deleted with a machine, and that nothing else is

## Main results

* `mem_names_iff`: what a list finds
* `mem_deletions_iff`: what is deleted of a kind
* `isWithout_of_isSweep`, `isRidOf_of_isDeletion`: what is removed, however the loops take turns
* `delete_isRidOf_and_failsOn`: what a deletion removes, and when it fails
-/

namespace VmProvisioning

open Api DnsLabel Interaction

/-! ## Faithful stores -/

/-- **A faithful store**: objects are kept in collections that the cluster has, and those of the
kinds that are deleted with a machine under their own names. -/
structure Store.IsFaithful (platform : Platform) (versions : StorageVersions)
    (store : Store) : Prop where
  isServed : ∀ location object, store.kept location = some object → ∀ resource : Resource,
    location.isOf (resource.stored versions) = true →
      platform.serves (resource.stored versions) = true
  name : ∀ location object, store.kept location = some object →
    location.IsOfOwnedKind versions → object.textAt? ["metadata", "name"] = some location.name

section Stores

variable {platform : Platform} {versions : StorageVersions} {store : Store}

theorem Store.IsFaithful.mono {changed : Store} (h : store.IsFaithful platform versions)
    (hkept : ∀ location object, changed.kept location = some object →
      store.kept location = some object) : changed.IsFaithful platform versions where
  isServed _ _ hobject := h.isServed _ _ (hkept _ _ hobject)
  name _ _ hobject := h.name _ _ (hkept _ _ hobject)

theorem Store.IsAddressable.isFaithful (h : store.IsAddressable platform versions) :
    store.IsFaithful platform versions where
  isServed := h.isServed
  name := h.name

end Stores

namespace Cluster

variable {settings : ClusterSettings} {platform : Platform} {versions : StorageVersions}
  {store changed final : Store} {id ns name : String} {resource : Resource}
  {trace : List (Event Request fun _ => Answer)}

/-! ## Names that are found -/

theorem isSendable_of_ownedNames_eq_ok {answer : Request → StateM Store Answer}
    {names : List String}
    (h : ((ownedNames settings resource id ns).exec answer).run store = (.ok names, changed)) :
    (Request.list resource ns (some (Ownership.selector id))).isSendable = true := by
  rw [ownedNames] at h
  obtain ⟨objects, listed, hlist, -⟩ := Operation.exec_bind_eq_ok h
  exact (exec_exchangeOr_eq_ok hlist rfl).1

/-- **The names that are found** are those of the labelled objects. -/
theorem mem_names_iff {names : List String} (hresource : resource ∈ ownedKinds)
    (hstore : store.IsFaithful platform versions)
    (h : ((ownedNames settings resource id ns).exec (platform.answerIn versions)).run store =
      (.ok names, changed)) :
    name ∈ names ↔ ∃ object,
      store.kept ((resource.stored versions).place ns name) = some object ∧
        IsOwned id object := by
  have howned (name : String) :
      ((resource.stored versions).place ns name).IsOfOwnedKind versions :=
    ⟨resource, hresource, isOf_place _ _ _⟩
  constructor
  · intro hname
    have hsendable := isSendable_of_ownedNames_eq_ok h
    cases hserves : platform.serves (resource.stored versions) with
    | false =>
      rw [exec_ownedNames_of_not_serves hsendable hserves] at h
      cases h
      cases hname
    | true =>
      rw [exec_ownedNames_of_serves hsendable hserves] at h
      split at h
      · next normals hnormals =>
        cases h
        obtain ⟨normal, hnormal, hfound⟩ := List.mem_filterMap.mp hname
        -- What is found is the name of an object in the list.
        have hmem : some normal ∈ (store.listed platform (resource.stored versions) ns
            (some (Ownership.selector id))).map object? :=
          mapM_eq_some_iff.mp hnormals ▸ List.mem_map_of_mem hnormal
        obtain ⟨object, hobject, hread⟩ := List.mem_map.mp hmem
        obtain ⟨other, hkept, hlabel⟩ := (mem_listed_iff hresource).mp hobject
        have hsame := name_object? hread (hstore.name _ _ hkept (howned other))
        rw [hfound] at hsame
        cases hsame
        exact ⟨object, hkept, hlabel⟩
      · cases h
  · rintro ⟨object, hkept, hlabel⟩
    exact mem_of_ownedNames_eq_ok hresource
      (hstore.isServed _ _ hkept resource (isOf_place _ _ _)) h hkept hlabel
      (hstore.name _ _ hkept (howned name))

/-! ## What a trace does to a store -/

/-- Requests of a sweep remove objects of its kinds only. -/
theorem pruned_of_replays (hreplays : Replays (platform.answerIn versions) store trace final)
    (hswept : ∀ event ∈ trace, IsSwept ns event.1) : Pruned versions store final := by
  induction hreplays with
  | nil state => exact .refl state
  | cons hrest ih =>
    obtain ⟨hfirst, hothers⟩ := List.forall_mem_cons.mp hswept
    exact (pruned_of_isSwept hfirst _).trans (ih hothers)

/-- **What is not deleted stays.** -/
theorem kept_eq_of_replays {location : Location}
    (hreplays : Replays (platform.answerIn versions) store trace final)
    (hswept : ∀ event ∈ trace, IsSwept ns event.1)
    (hdeleted : ∀ event ∈ trace, ∀ resource name, event.1 = .delete resource ns name true →
      location ≠ (resource.stored versions).place ns name) :
    final.kept location = store.kept location := by
  induction hreplays with
  | nil state => rfl
  | @cons query trace state final hrest ih =>
    obtain ⟨hfirst, hothers⟩ := List.forall_mem_cons.mp hswept
    obtain ⟨hquery, hdeletions⟩ := List.forall_mem_cons.mp hdeleted
    rw [ih hothers hdeletions]
    cases hfirst with
    | list resource selector => rw [Platform.kept_answerIn_of_isReading rfl]
    | @delete resource name hresource =>
      exact Platform.kept_answerIn_delete_of_ne (hquery resource name rfl)

/-- **What is deleted is gone.** -/
theorem kept_eq_none_of_replays (hstore : store.IsFaithful platform versions)
    (hreplays : Replays (platform.answerIn versions) store trace final)
    (hswept : ∀ event ∈ trace, IsSwept ns event.1)
    (hdeleted : ∃ event ∈ trace, event.1 = .delete resource ns name true) :
    final.kept ((resource.stored versions).place ns name) = none := by
  obtain ⟨⟨_, answer⟩, hevent, rfl⟩ := hdeleted
  obtain ⟨before, after, rfl⟩ := List.append_of_mem hevent
  obtain ⟨middle, hbefore, hafter⟩ := replays_append_iff.mp hreplays
  obtain ⟨-, hrest⟩ := replays_cons_iff.mp hafter
  have hafter : ∀ event ∈ after, IsSwept ns event.1 := fun event hevent =>
    hswept event (List.mem_append_right _ (List.mem_cons_of_mem _ hevent))
  refine (pruned_of_replays hrest hafter).kept_eq_none ?_
  cases hserves : platform.serves (resource.stored versions) with
  | true => exact Platform.kept_answerIn_delete hserves
  -- nothing is kept in a collection that the cluster does not have
  | false =>
    refine Option.eq_none_iff_forall_ne_some.mpr fun object hobject => ?_
    have hkept := (pruned_of_replays hbefore fun event hevent =>
      hswept event (List.mem_append_left _ hevent)).kept_of_kept _ _
        (Platform.kept_of_kept_answerIn_delete hobject)
    rw [hstore.isServed _ _ hkept resource (isOf_place _ _ _)] at hserves
    cases hserves

/-! ## What a sweep removes -/

/-- Different kinds are kept at different places. -/
theorem place_ne_of_ne {other : Resource} {ns' name' : String} (hresource : resource ∈ ownedKinds)
    (hother : other ∈ ownedKinds) (hne : resource ≠ other) :
    (resource.stored versions).place ns name ≠ (other.stored versions).place ns' name' := by
  intro heq
  exact hne (List.inj_on_of_nodup_map nodup_plurals hresource hother
    (congrArg Location.plural heq))

/-- The names that the loop of a kind finds are those that the sweep deletes. -/
theorem mem_names_of_share_iff {names : List String} {answer : Answer}
    {deletions : List (Event Request fun _ => Answer)}
    (hshare : share Request.resource? resource trace =
      ⟨.list resource ns (some (Ownership.selector id)), answer⟩ :: deletions)
    (hdeletions : deletions.map Sigma.fst = names.map fun name => .delete resource ns name true) :
    (∃ event ∈ trace, event.1 = .delete resource ns name true) ↔ name ∈ names := by
  constructor
  · rintro ⟨event, hevent, hquery⟩
    have hmem : event ∈ share Request.resource? resource trace :=
      List.mem_filter.mpr ⟨hevent, decide_eq_true (by rw [hquery]; rfl)⟩
    rw [hshare] at hmem
    rcases List.mem_cons.mp hmem with rfl | hmem
    · cases hquery
    · have hname : event.1 ∈ names.map fun name => Request.delete resource ns name true :=
        hdeletions ▸ List.mem_map_of_mem hmem
      obtain ⟨found, hfound, heq⟩ := List.mem_map.mp hname
      rw [hquery] at heq
      cases heq
      exact hfound
  · intro hname
    have hmem : Request.delete resource ns name true ∈ deletions.map Sigma.fst :=
      hdeletions ▸ List.mem_map_of_mem hname
    obtain ⟨event, hevent, hquery⟩ := List.mem_map.mp hmem
    have hshared : event ∈ share Request.resource? resource trace :=
      hshare ▸ List.mem_cons_of_mem _ hevent
    exact ⟨event, (List.mem_filter.mp hshared).1, hquery⟩

/-- **What is deleted of a kind** in a sweep is what was labelled before it. -/
theorem mem_deletions_iff (hresource : resource ∈ ownedKinds)
    (hstore : store.IsFaithful platform versions)
    (hreplays : Replays (platform.answerIn versions) store trace final)
    (h : IsSweep settings id ns trace) :
    (∃ event ∈ trace, event.1 = .delete resource ns name true) ↔ ∃ object,
      store.kept ((resource.stored versions).place ns name) = some object ∧
        IsOwned id object := by
  obtain ⟨answer, names, deletions, hshare, hnames, hdeletions⟩ :=
    runs_sweepKind_ok (h.runs resource hresource)
  -- The events of the kind begin with the list, and until then nothing of it is deleted.
  obtain ⟨before, after, rfl, hbefore, -, -⟩ := List.filter_eq_cons_iff.mp hshare
  obtain ⟨middle, hfirst, hrest⟩ := replays_append_iff.mp hreplays
  obtain ⟨hanswer, -⟩ := replays_cons_iff.mp hrest
  have hswept : ∀ event ∈ before, IsSwept ns event.1 := fun event hevent =>
    h.isSwept event (List.mem_append_left _ hevent)
  have hkept : middle.kept ((resource.stored versions).place ns name) =
      store.kept ((resource.stored versions).place ns name) := by
    refine kept_eq_of_replays hfirst hswept fun event hevent other name' hquery => ?_
    obtain ⟨owned, howned, habout⟩ := h.about event (List.mem_append_left _ hevent)
    rw [hquery] at habout
    cases habout
    refine place_ne_of_ne hresource howned ?_
    rintro rfl
    exact hbefore event hevent (decide_eq_true (by rw [hquery]; rfl))
  have hrun : ((ownedNames settings resource id ns).exec (platform.answerIn versions)).run middle =
      (.ok names, _) :=
    run_eq_iff.mpr ⟨_, hnames, replays_cons_iff.mpr ⟨hanswer, .nil _⟩⟩
  have hmiddle : middle.IsFaithful platform versions :=
    hstore.mono (pruned_of_replays hfirst hswept).kept_of_kept
  rw [← hkept, ← mem_names_iff hresource hmiddle hrun]
  exact mem_names_of_share_iff hshare hdeletions

end Cluster

/-- **An object belongs to a machine**: it is labelled, and of a kind that is deleted with it. -/
def Store.Belongs (versions : StorageVersions) (id ns : String) (store : Store)
    (location : Location) : Prop :=
  location.ns = ns ∧ location.IsOfOwnedKind versions ∧
    ∃ object, store.kept location = some object ∧ Cluster.IsOwned id object

/-- **What of a store is left** when something is removed from it: nothing of that, and everything
else as it was. -/
structure Store.IsWithout (IsRemoved : Location → Prop) (store final : Store) : Prop where
  gone : ∀ location, IsRemoved location → final.kept location = none
  kept : ∀ location, ¬IsRemoved location → final.kept location = store.kept location

/-- **A store is rid of a machine** that was there: the machine and what belongs to it are gone, and
nothing else is. -/
structure Store.IsRidOf (versions : StorageVersions) (id ns : String) (store final : Store) :
    Prop where
  machine : (store.kept (Cluster.machineIn versions ns id)).isSome
  isWithout : store.IsWithout (fun location => location = Cluster.machineIn versions ns id ∨
    store.Belongs versions id ns location) final

namespace Cluster

variable {settings : ClusterSettings} {platform : Platform} {versions : StorageVersions}
  {store middle final : Store} {id ns : String} {trace : List (Event Request fun _ => Answer)}

/-- **A sweep removes what belongs to the machine, and nothing else**, however its loops take
turns. -/
theorem isWithout_of_isSweep (hstore : store.IsFaithful platform versions)
    (hreplays : Replays (platform.answerIn versions) store trace final)
    (h : IsSweep settings id ns trace) :
    store.IsWithout (store.Belongs versions id ns) final where
  gone location hbelongs := by
    obtain ⟨rfl, ⟨resource, hresource, hlocation⟩, object, hobject, howned⟩ := hbelongs
    have hplace : location = (resource.stored versions).place location.ns location.name := by
      simp only [Location.isOf, Bool.and_eq_true, beq_iff_eq] at hlocation
      rw [Resource.place, ← hlocation.1, ← hlocation.2]
    rw [hplace] at hobject ⊢
    exact kept_eq_none_of_replays hstore hreplays h.isSwept
      ((mem_deletions_iff hresource hstore hreplays h).mpr ⟨object, hobject, howned⟩)
  kept location hbelongs := by
    refine kept_eq_of_replays hreplays h.isSwept fun event hevent resource name hquery => ?_
    rintro rfl
    -- What is deleted was labelled, and so belonged to the machine.
    obtain ⟨owned, hresource, habout⟩ := h.about event hevent
    rw [hquery] at habout
    cases habout
    obtain ⟨object, hobject, howned⟩ :=
      (mem_deletions_iff hresource hstore hreplays h).mp ⟨event, hevent, hquery⟩
    exact hbelongs ⟨rfl, ⟨resource, hresource, isOf_place _ _ _⟩, object, hobject, howned⟩

/-- A machine is only deleted where it was there. -/
theorem exec_deleteMachine_eq_ok
    (h : ((deleteMachine settings id ns).exec (platform.answerIn versions)).run store =
      (.ok (), middle)) :
    (store.kept (machineIn versions ns id)).isSome ∧
      middle = (store.remove (machineIn versions ns id)).tick := by
  obtain ⟨-, rfl, hresult⟩ := exec_exchangeOr_eq_ok h rfl
  cases hserves : platform.serves (machines.stored versions) with
  | false =>
    rw [Platform.answerIn_of_not_serves rfl hserves] at hresult
    cases hresult
  | true =>
    rw [Platform.answerIn_of_serves rfl hserves] at hresult ⊢
    simp only [Request.mapResource, Platform.serve] at hresult ⊢
    rw [← machineIn] at hresult ⊢
    cases hkept : store.kept (machineIn versions ns id) with
    | none =>
      rw [Store.shown_of_not_kept hkept isOf_instances_machineIn] at hresult
      rw [settle_missing] at hresult
      cases hresult
    | some object =>
      cases hshown : store.shown platform (machineIn versions ns id) with
      | none =>
        rw [Store.kept_of_not_shown hshown] at hkept
        cases hkept
      | some shown => exact ⟨rfl, rfl⟩

/-- **A deletion removes the machine and what belongs to it, and nothing else.** -/
theorem isRidOf_of_isDeletion (hstore : store.IsFaithful platform versions)
    (hreplays : Replays (platform.answerIn versions) store trace final)
    (h : IsDeletion settings id ns trace) : store.IsRidOf versions id ns final := by
  obtain ⟨-, first, rest, rfl, hmachine, hsweep⟩ := h
  obtain ⟨middle, hfirst, hrest⟩ := replays_append_iff.mp hreplays
  obtain ⟨hthere, rfl⟩ := exec_deleteMachine_eq_ok (run_eq_iff.mpr ⟨first, hmachine, hfirst⟩)
  have hmiddle : ∀ location, (store.remove (machineIn versions ns id)).tick.kept location =
      if location = machineIn versions ns id then none else store.kept location :=
    fun location => Store.kept_remove
  have hremoved : ∀ location object,
      (store.remove (machineIn versions ns id)).tick.kept location = some object →
        store.kept location = some object :=
    fun _ _ h => Store.kept_of_kept_remove h
  have hwithout := isWithout_of_isSweep (hstore.mono hremoved) hrest hsweep
  -- The machine itself is not of a kind that is swept.
  have hbelongs : ∀ location,
      (store.remove (machineIn versions ns id)).tick.Belongs versions id ns location ↔
        store.Belongs versions id ns location := by
    intro location
    refine and_congr_right fun _ => and_congr_right fun howned => ?_
    have hne : location ≠ machineIn versions ns id := by
      rintro rfl
      exact not_isOfOwnedKind_machineIn howned
    rw [hmiddle, if_neg hne]
  refine ⟨hthere, fun location hlocation => ?_, fun location hlocation => ?_⟩
  · rcases hlocation with rfl | hlocation
    · rw [hwithout.kept _ fun hmachine => not_isOfOwnedKind_machineIn hmachine.2.1, hmiddle,
        if_pos rfl]
    · exact hwithout.gone _ ((hbelongs location).mpr hlocation)
  · obtain ⟨hne, hlocation⟩ := not_or.mp hlocation
    rw [hwithout.kept _ fun h => hlocation ((hbelongs location).mp h), hmiddle, if_neg hne]

/-! ## Precisely what belongs to a machine -/

/-- **A deletion removes precisely a machine and what belongs to it.** On a faithful store, when it
succeeds the machine was there, and it and the labelled objects of the kinds that are deleted with
it, in its namespace, are gone. Everything else is as it was. This is so however the loops of the
kinds take turns, of which the deletion itself is one way.

It fails exactly when its id is not one of a machine, or a list or a deletion of its run fails, or
it is stuck at a request of its own or at the deletion of a name that it found; so do the loops. It
succeeds where all its answers can be read, but for those that say that a collection or an object of
a kind that is deleted with it is missing. -/
theorem delete_isRidOf_and_failsOn (settings : ClusterSettings) (id ns : String) :
    (∀ platform versions (store : Store), store.IsFaithful platform versions →
      (∀ final, ((delete settings id ns).exec (platform.answerIn versions)).run store =
        (.ok (), final) → store.IsRidOf versions id ns final) ∧
      ∀ trace final, IsDeletion settings id ns trace →
        Replays (platform.answerIn versions) store trace final →
          store.IsRidOf versions id ns final) ∧
      (∀ trace, Runs (delete settings id ns).run trace (.ok ()) →
        IsDeletion settings id ns trace) ∧
      (∀ trace result, Runs (delete settings id ns).run trace result →
        ((∃ failure, result = .error failure) ↔
          validate id ≠ .ok () ∨ (∃ event ∈ trace, IsFailing event) ∨ IsStuck id ns trace) ∧
        (validate id = .ok () → ¬IsStuck id ns trace →
          (∀ event ∈ trace, IsRead event ∨ IsMissing event) → result = .ok ())) ∧
      ∀ resource ∈ ownedKinds, (sweepKind settings id ns resource).FailsOn IsFailing
        fun trace => IsStuckAt id ns trace resource := by
  refine ⟨fun platform versions store hstore => ⟨fun final h => ?_, fun trace final h hreplays =>
    isRidOf_of_isDeletion hstore hreplays h⟩, fun trace h => isDeletion_of_runs h,
    fun trace result h => ?_, fun resource hresource => failsOn_sweepKind hresource⟩
  · obtain ⟨trace, hruns, hreplays⟩ := run_eq_iff.mp h
    exact isRidOf_of_isDeletion hstore hreplays (isDeletion_of_runs hruns)
  · have hfails := exists_error_iff_of_runs_delete h
    refine ⟨hfails, fun hvalid hstuck hread => ?_⟩
    cases result with
    | ok => rfl
    | error failure =>
      rcases hfails.mp ⟨failure, rfl⟩ with hinvalid | ⟨event, hevent, hfailing⟩ | hnow
      · exact absurd hvalid hinvalid
      · exact absurd hfailing (not_isFailing (hread event hevent))
      · exact absurd hnow hstuck

/-! ## A machine among other objects -/

/-- A secret that was not made for the machine. -/
def plainSecret : Json :=
  .object [("apiVersion", .text "v1"), ("kind", .text "Secret"),
    ("metadata", .object [("name", .text "notes")])]

/-- Where that secret is kept. -/
def plainPlace : Location :=
  ((Resource.ofKind "v1" "Secret").stored separateVersions).place "acme-dev" "notes"

/-- A cluster with a machine, its secret and another one. -/
def sharedStore : Store :=
  webStore.put plainPlace plainSecret

theorem not_isOwned_plainSecret : ¬IsOwned "web" plainSecret := by
  have hlabel : plainSecret.textAt? ["metadata", "labels", Ownership.machineKey] = none := by
    decide +kernel
  rw [IsOwned, hlabel]
  rintro ⟨⟩

theorem isAddressable_sharedStore : sharedStore.IsAddressable podPlatform separateVersions :=
  isAddressable_webStore.put (fun _ _ => rfl) (by decide +kernel : (object? plainSecret).isSome)
    rfl ⟨by decide, by decide⟩

/-- The answer of a cluster that has machines only, where the machine is there. -/
def bareAnswer (request : Request) : Answer :=
  if request = .delete machines "acme-dev" "web" true then
    .answered 200 (.json (.ofTexts [("kind", "Status"), ("status", "Success")]))
  else .answered 404 (.text "404 page not found")

theorem isRead_or_isMissing_of_bareAnswer {event : Event Request fun _ => Answer}
    (h : event.1 = .delete machines "acme-dev" "web" true ∨ IsSwept "acme-dev" event.1)
    (hanswer : event.2 = bareAnswer event.1) : IsRead event ∨ IsMissing event := by
  obtain ⟨request, answer⟩ := event
  obtain rfl : answer = bareAnswer request := hanswer
  have hmachines : machines ∉ ownedKinds := by decide +kernel
  have hmissing :
      (Trouble.refused (refusal 404 (.text "404 page not found"))).isNotFound = true := by
    decide +kernel
  rcases (h : request = _ ∨ IsSwept _ request) with
    rfl | ⟨resource, selector⟩ | @⟨resource, name, hresource⟩
  · exact .inl ⟨(), rfl⟩
  · exact .inr ⟨_, rfl, hmissing⟩
  · have hne : resource ≠ machines := by
      rintro rfl
      exact hmachines hresource
    have hanswer : bareAnswer (.delete resource "acme-dev" name true) =
        .answered 404 (.text "404 page not found") :=
      if_neg fun heq => hne (Request.delete.inj heq).1
    refine .inr ⟨hresource, _, ?_, hmissing⟩
    rw [hanswer]
    rfl

/-- Nothing is found in such a cluster. -/
theorem not_isFound_of_bareAnswer {event : Event Request fun _ => Answer} {resource : Resource}
    {name : String} (hanswer : event.2 = bareAnswer event.1) :
    ¬IsFound "web" "acme-dev" resource name event := by
  rintro ⟨hlist, objects, hread, -⟩
  rw [hanswer, hlist] at hread
  cases hread

/-- What the deletion of the machine comes to there. -/
def bareDeletion : Except Failure Unit × Unit :=
  ((delete webSettings "web" "acme-dev").exec fun request => pure (bareAnswer request)).run ()

/-- The machine and its secret are gone, and the other secret is not. Where the cluster has nothing
but machines, all lists are refused, and the machine is deleted. -/
theorem delete_sharedStore :
    (sharedStore.IsFaithful podPlatform separateVersions ∧
      ∃ final, ((delete webSettings "web" "acme-dev").exec
          (podPlatform.answerIn separateVersions)).run sharedStore = (.ok (), final) ∧
        final.kept (machineIn separateVersions "acme-dev" "web") = none ∧
        final.kept secretPlace = none ∧ final.kept plainPlace = some plainSecret) ∧
      bareDeletion.1 = .ok () := by
  have hvalid : validate "web" = .ok () := by decide +kernel
  have hns : IsLabelText "acme-dev" := by decide +kernel
  obtain ⟨hrid, -, hfails, -⟩ := delete_isRidOf_and_failsOn webSettings "web" "acme-dev"
  constructor
  · have hthere : (sharedStore.kept (machineIn separateVersions "acme-dev" "web")).isSome := by
      decide +kernel
    obtain ⟨final, hfinal, -⟩ :=
      exec_delete_of_kept hvalid hns webSettings isAddressable_sharedStore hthere
    have hfaithful := isAddressable_sharedStore.isFaithful
    obtain ⟨hexec, -⟩ := hrid podPlatform separateVersions sharedStore hfaithful
    obtain ⟨-, hgone, hkept⟩ := hexec final hfinal
    have hsecret : sharedStore.kept secretPlace = some webSecret := by decide +kernel
    have hplain : sharedStore.kept plainPlace = some plainSecret := by decide +kernel
    refine ⟨hfaithful, final, hfinal, hgone _ (.inl rfl), hgone _ (.inr ?_), ?_⟩
    · exact ⟨rfl, ⟨.ofKind "v1" "Secret", by decide +kernel, isOf_place _ _ _⟩, _, hsecret, rfl⟩
    · rw [hkept, hplain]
      rintro (hmachine | ⟨-, -, object, hobject, howned⟩)
      · exact absurd hmachine (by decide +kernel)
      · cases hplain.symm.trans hobject
        exact not_isOwned_plainSecret howned
  · obtain ⟨trace, hrun, hreplays⟩ :=
      run_eq_iff.mp (Prod.mk.eta : (bareDeletion.1, bareDeletion.2) = bareDeletion).symm
    have hasked := (asks_delete hvalid).of_runs hrun
    have hanswered : ∀ event ∈ trace, event.2 = bareAnswer event.1 :=
      hreplays.forall_mem fun _ _ => rfl
    obtain ⟨-, hsucceeds⟩ := hfails trace _ hrun
    have hstuck : ¬IsStuck "web" "acme-dev" trace := by
      refine not_isStuck hvalid hns ?_
      rintro resource hresource name ⟨event, hevent, hfound⟩
      exact absurd hfound (not_isFound_of_bareAnswer (hanswered event hevent))
    exact hsucceeds hvalid hstuck fun event hevent =>
      isRead_or_isMissing_of_bareAnswer (hasked event hevent) (hanswered event hevent)

end Cluster

end VmProvisioning
