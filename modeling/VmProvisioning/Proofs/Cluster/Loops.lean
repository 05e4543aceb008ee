import VmProvisioning.Proofs.Cluster.Sweep
import VmProvisioning.Proofs.Trace

/-!
# Deletions along their traces

A deletion removes the machine, and then everything in its namespace that is labelled with its id
and of a kind that is made with machines. The objects of each kind are listed and deleted by a loop
of its own, and the loops go on side by side: each of them is run by its share of the trace.

## Main definitions

* `Cluster.sweepKind`, `Cluster.IsSweep`: the loop of one kind, and loops that take turns
* `Cluster.IsDeletion`: the machine is deleted before the sweep

## Main results

* `runs_sweepKind_ok`: what a loop asks for
* `isSweep_of_runs`, `isDeletion_of_runs`: the deletion itself is one of the ways to take turns
-/

namespace VmProvisioning

open Api DnsLabel Interaction

namespace Cluster

variable {settings : ClusterSettings} {id ns name : String} {resource : Resource}
  {trace : List (Event Request fun _ => Answer)}

/-! ## Traces of a sweep -/

/-- **The loop of one kind**: its objects are listed and deleted one by one. -/
def sweepKind (settings : ClusterSettings) (id ns : String) (resource : Resource) :
    Action Unit := do
  let names ← ownedNames settings resource id ns
  names.forM fun name => deleteOwned settings resource ns name

/-- **A sweep that succeeds**, however the loops of its kinds take turns. -/
structure IsSweep (settings : ClusterSettings) (id ns : String)
    (trace : List (Event Request fun _ => Answer)) : Prop where
  about : ∀ event ∈ trace, ∃ resource ∈ ownedKinds, event.1.resource? = some resource
  runs : ∀ resource ∈ ownedKinds, Runs (sweepKind settings id ns resource).run
    (share Request.resource? resource trace) (.ok ())

/-- **A deletion that succeeds**: the machine is deleted, and then everything is swept. -/
def IsDeletion (settings : ClusterSettings) (id ns : String)
    (trace : List (Event Request fun _ => Answer)) : Prop :=
  validate id = .ok () ∧ ∃ first rest, trace = first ++ rest ∧
    Runs (deleteMachine settings id ns).run first (.ok ()) ∧ IsSweep settings id ns rest

theorem runs_ownedNames_ok {names : List String}
    (h : Runs (ownedNames settings resource id ns).run trace (.ok names)) :
    ∃ answer, trace = [⟨.list resource ns (some (Ownership.selector id)), answer⟩] := by
  rw [ownedNames, Operation.runs_bind_ok_iff] at h
  obtain ⟨before, objects, rest, rfl, hlist, hlast⟩ := h
  obtain ⟨rfl, -⟩ := Operation.runs_pure_iff.mp hlast
  rcases runs_exchangeOr_iff.mp hlist with ⟨-, answer, rfl, -⟩ | ⟨-, -, hresult⟩
  · exact ⟨answer, rfl⟩
  · cases hresult

theorem runs_deleteOwned_ok (h : Runs (deleteOwned settings resource ns name).run trace (.ok ())) :
    ∃ answer, trace = [⟨.delete resource ns name true, answer⟩] := by
  rcases runs_exchangeOr_iff.mp h with ⟨-, answer, rfl, -⟩ | ⟨-, -, hresult⟩
  · exact ⟨answer, rfl⟩
  · cases hresult

/-- Every name that is found is deleted, and nothing else. -/
theorem map_fst_of_runs_forM {names : List String}
    (h : Runs (names.forM fun name => deleteOwned settings resource ns name).run trace
      (.ok ())) :
    trace.map Sigma.fst = names.map fun name => .delete resource ns name true := by
  induction names generalizing trace with
  | nil =>
    obtain ⟨rfl, -⟩ := Operation.runs_pure_iff.mp h
    rfl
  | cons name names ih =>
    rw [Operation.forM_cons, Operation.runs_bind_ok_iff] at h
    obtain ⟨before, done, rest, rfl, hfirst, hrest⟩ := h
    obtain ⟨answer, rfl⟩ := runs_deleteOwned_ok hfirst
    simp [ih hrest]

/-- **The loop of one kind that succeeds** lists its objects, and then deletes what it found. -/
theorem runs_sweepKind_ok (h : Runs (sweepKind settings id ns resource).run trace (.ok ())) :
    ∃ answer names deletions,
      trace = ⟨.list resource ns (some (Ownership.selector id)), answer⟩ :: deletions ∧
      Runs (ownedNames settings resource id ns).run
        [⟨.list resource ns (some (Ownership.selector id)), answer⟩] (.ok names) ∧
      deletions.map Sigma.fst = names.map fun name => .delete resource ns name true := by
  rw [sweepKind, Operation.runs_bind_ok_iff] at h
  obtain ⟨first, names, deletions, rfl, hnames, hdeletions⟩ := h
  obtain ⟨answer, rfl⟩ := runs_ownedNames_ok hnames
  exact ⟨answer, names, deletions, rfl, hnames, map_fst_of_runs_forM hdeletions⟩

/-- The loop of one kind lists and deletes objects of its kind. -/
theorem asks_sweepKind (hresource : resource ∈ ownedKinds) :
    (sweepKind settings id ns resource).Asks
      (fun request => IsSwept ns request ∧ request.resource? = some resource) fun _ => True := by
  rw [sweepKind]
  exact (asks_ownedNames ⟨.list resource _, rfl⟩).bind fun names _ =>
    Operation.asks_forM fun name _ => asks_deleteOwned ⟨.delete name hresource, rfl⟩

theorem IsSweep.isSwept (h : IsSweep settings id ns trace) :
    ∀ event ∈ trace, IsSwept ns event.1 := by
  intro event hevent
  obtain ⟨resource, hresource, habout⟩ := h.about event hevent
  have hshare : event ∈ share Request.resource? resource trace :=
    List.mem_filter.mpr ⟨hevent, decide_eq_true habout⟩
  exact ((asks_sweepKind hresource).of_runs (h.runs resource hresource) event hshare).1

/-! ## The order of a sweep -/

theorem flatMap_getElem?_toList {α : Type} (elements : List α) {count : Nat}
    (h : elements.length ≤ count) :
    ((List.range count).flatMap fun turn => elements[turn]?.toList) = elements := by
  have htake : ((List.range count).flatMap fun turn => elements[turn]?.toList) =
      elements.take count := by
    clear h
    induction count with
    | zero => rfl
    | succ count ih => simp [List.range_succ, ih, List.take_add_one]
  rw [htake, List.take_of_length_le h]

/-- In every turn there is at most one name of a kind. -/
theorem filter_turn {found : List (Resource × List String)} {names : List String}
    (hnodup : (found.map Prod.fst).Nodup) (h : (resource, names) ∈ found) (turn : Nat) :
    (found.filterMap fun (other, names) => names[turn]?.map fun name => (other, name)).filter
        (fun entry => entry.1 = resource) =
      (names[turn]?.map fun name => (resource, name)).toList := by
  induction found with
  | nil => cases h
  | cons entry found ih =>
    obtain ⟨other, others⟩ := entry
    obtain ⟨hfresh, hnodup⟩ := List.nodup_cons.mp hnodup
    rcases List.mem_cons.mp h with heq | hmem
    · cases heq
      have hrest : (found.filterMap fun (other, names) =>
          names[turn]?.map fun name => (other, name)).filter
            (fun entry => entry.1 = resource) = [] := by
        refine List.filter_eq_nil_iff.mpr fun entry hentry hkey => ?_
        obtain ⟨⟨other, others⟩, hfound, hname⟩ := List.mem_filterMap.mp hentry
        obtain ⟨name, -, rfl⟩ := Option.map_eq_some_iff.mp hname
        have hsame : other = resource := of_decide_eq_true hkey
        exact hfresh (List.mem_map.mpr ⟨_, hfound, hsame⟩)
      cases hget : names[turn]? with
      | none => simpa [List.filterMap_cons, hget] using hrest
      | some name => simpa [List.filterMap_cons, hget] using hrest
    · have hne : other ≠ resource := by
        rintro rfl
        exact hfresh (List.mem_map.mpr ⟨_, hmem, rfl⟩)
      have hrest := ih hnodup hmem
      cases hget : others[turn]? with
      | none => simpa [List.filterMap_cons, hget] using hrest
      | some name => simpa [List.filterMap_cons, hget, hne] using hrest

/-- What is found of a kind is deleted in its order, whatever is deleted in between. -/
theorem filter_inTurns {found : List (Resource × List String)} {names : List String}
    (hnodup : (found.map Prod.fst).Nodup) (h : (resource, names) ∈ found) :
    (inTurns found).filter (fun turn => turn.1 = resource) =
      names.map fun name => (resource, name) := by
  have hlength : (names.map fun name => (resource, name)).length ≤
      (found.map fun (_, names) => names.length).foldl max 0 := by
    rw [List.length_map]
    exact (@le_foldl_max (found.map fun entry => entry.2.length) 0).2 names.length
      (List.mem_map_of_mem h)
  rw [inTurns, List.filter_flatMap]
  simp only [filter_turn hnodup h]
  simp only [← List.getElem?_map]
  exact flatMap_getElem?_toList _ hlength

theorem exists_mem_of_forall₂ {α β : Type} {Related : α → β → Prop} {elements : List α}
    {others : List β} (h : List.Forall₂ Related elements others) {element : α}
    (hmem : element ∈ elements) : ∃ other ∈ others, Related element other := by
  induction h with
  | nil => cases hmem
  | cons hfirst _ ih =>
    rcases List.mem_cons.mp hmem with rfl | hmem
    · exact ⟨_, List.mem_cons_self, hfirst⟩
    · obtain ⟨other, hother, hrelated⟩ := ih hmem
      exact ⟨other, List.mem_cons_of_mem _ hother, hrelated⟩

/-- Different kinds have different collections. -/
theorem nodup_plurals : (ownedKinds.map Resource.plural).Nodup := by
  decide +kernel

theorem nodup_ownedKinds : ownedKinds.Nodup :=
  .of_map _ nodup_plurals

/-- The names that are found of all kinds. -/
def listKinds (settings : ClusterSettings) (id ns : String) :
    Action (List (Resource × List String)) :=
  ownedKinds.mapM fun resource => do
    return (resource, ← ownedNames settings resource id ns)

theorem sweep_eq : sweep settings id ns = (listKinds settings id ns >>= fun found =>
    (inTurns found).forM fun turn => deleteOwned settings turn.1 ns turn.2) :=
  rfl

/-- Listing a kind is about it. -/
theorem asks_listKind (resource : Resource) :
    (do return (resource, ← ownedNames settings resource id ns) :
      Action (Resource × List String)).Asks (fun request => request.resource? = some resource)
      fun _ => True := by
  refine Operation.Asks.bind (asks_ownedNames ?_) fun _ _ => Operation.asks_pure trivial
  rfl

/-- Every kind has an entry with the names that were found of it. -/
theorem forall₂_of_runs_listKinds {found : List (Resource × List String)}
    (h : Runs (listKinds settings id ns).run trace (.ok found)) :
    List.Forall₂ (fun resource (entry : Resource × List String) =>
      entry.1 = resource ∧ Runs (ownedNames settings resource id ns).run
        (share Request.resource? resource trace) (.ok entry.2)) ownedKinds found := by
  refine (Operation.runs_mapM_share (fun resource _ => asks_listKind resource)
    (by simpa using nodup_ownedKinds) h).imp fun resource entry hrun => ?_
  obtain ⟨before, names, rest, hsplit, hnames, hlast⟩ := Operation.runs_bind_ok_iff.mp hrun
  obtain ⟨rfl, hentry⟩ := Operation.runs_pure_iff.mp hlast
  cases hentry
  rw [List.append_nil] at hsplit
  exact ⟨rfl, hsplit ▸ hnames⟩

theorem map_fst_of_runs_listKinds {found : List (Resource × List String)}
    (h : Runs (listKinds settings id ns).run trace (.ok found)) :
    found.map Prod.fst = ownedKinds := by
  have hsame : List.Forall₂ (fun resource (entry : Resource × List String) => entry.1 = resource)
      ownedKinds found := (forall₂_of_runs_listKinds h).imp fun _ _ h => h.1
  rw [← List.forall₂_eq_eq_eq, List.forall₂_map_left_iff]
  exact hsame.flip

/-- Everything that is deleted in turns is of a kind that is deleted with a machine. -/
theorem mem_ownedKinds_of_mem_inTurns {found : List (Resource × List String)}
    (hkinds : found.map Prod.fst = ownedKinds) {turn : Resource × String}
    (hturn : turn ∈ inTurns found) : turn.1 ∈ ownedKinds := by
  obtain ⟨names, hnames, -⟩ := mem_inTurns_iff.mp hturn
  exact hkinds ▸ List.mem_map_of_mem hnames

/-- **A sweep that succeeds** is one where the loops take turns in one of the ways. -/
theorem isSweep_of_runs (h : Runs (sweep settings id ns).run trace (.ok ())) :
    IsSweep settings id ns trace := by
  rw [sweep_eq, Operation.runs_bind_ok_iff] at h
  obtain ⟨lists, found, deletions, rfl, hlists, hdeletions⟩ := h
  have hkinds := map_fst_of_runs_listKinds hlists
  constructor
  · intro event hevent
    rcases List.mem_append.mp hevent with hevent | hevent
    · exact Operation.about_of_runs_mapM (fun resource _ => asks_listKind resource) hlists event
        hevent
    · have hall : ((inTurns found).forM fun turn => deleteOwned settings turn.1 ns turn.2 :
          Action Unit).Asks (fun request => ∃ resource ∈ ownedKinds,
            request.resource? = some resource) fun _ => True := by
        exact Operation.asks_forM fun turn hturn =>
          asks_deleteOwned ⟨turn.1, mem_ownedKinds_of_mem_inTurns hkinds hturn, rfl⟩
      exact hall.of_runs hdeletions event hevent
  · intro resource hresource
    obtain ⟨names, hentry, hnames⟩ : ∃ names, (resource, names) ∈ found ∧
        Runs (ownedNames settings resource id ns).run
          (share Request.resource? resource lists) (.ok names) := by
      obtain ⟨⟨_, names⟩, hentry, rfl, hnames⟩ :=
        exists_mem_of_forall₂ (forall₂_of_runs_listKinds hlists) hresource
      exact ⟨names, hentry, hnames⟩
    have hdeleted := Operation.runs_forM_share Request.resource?
      (fun turn : Resource × String => turn.1) (fun turn _ => asks_deleteOwned rfl) hdeletions
      resource
    rw [filter_inTurns (hkinds ▸ nodup_ownedKinds) hentry] at hdeleted
    rw [share_append, sweepKind]
    rw [List.forM_eq_forM, List.forM_map] at hdeleted
    exact Operation.runs_bind_ok_iff.mpr ⟨_, names, _, rfl, hnames, hdeleted⟩

theorem isDeletion_of_runs (h : Runs (delete settings id ns).run trace (.ok ())) :
    IsDeletion settings id ns trace := by
  cases hvalid : validate id with
  | error failure =>
    rw [delete, hvalid, Operation.ofExcept_error_bind] at h
    cases (Operation.runs_throw_iff.mp h).2
  | ok =>
    rw [delete_eq hvalid, Operation.runs_bind_ok_iff] at h
    obtain ⟨first, done, rest, rfl, hmachine, hsweep⟩ := h
    exact ⟨hvalid, first, rest, rfl, hmachine, isSweep_of_runs hsweep⟩

end Cluster

end VmProvisioning
