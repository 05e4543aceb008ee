import VmProvisioning.Proofs.Cluster.Loops

/-!
# When a deletion fails

A deletion fails with the first of its answers that is of no use, but for those that say that
something is missing: a kind that the cluster does not have has no objects, and an object that is
gone need not be deleted. It fails too when it is stuck, with a request that cannot be sent. The
deletion of the machine and the lists are requests of its own; the other deletions are for the
names that its lists brought, so whether it is stuck shows in its trace.

## Main definitions

* `Cluster.IsFailing`, `Cluster.IsRead`, `Cluster.IsMissing`: answers to lists and deletions
* `Cluster.IsFound`: a name that an object in the answer to a list has
* `Cluster.IsStuckAt`, `Cluster.IsStuck`: a loop and a deletion with a request that cannot be sent

## Main results

* `Api.failsOn_exchangeOr`: when a single request fails
* `mem_names_iff_isFound`: the names that a list brings are found in its answer
* `failsOn_sweepKind`, `failsOn_sweep`, `failsOn_delete`: when a loop, a sweep and a deletion fail
* `not_isFailing`, `not_isStuck`: what is no failure
-/

namespace VmProvisioning

open Api DnsLabel Interaction

/-! ## Single requests -/

namespace Api

variable {α : Type} {concern : Concern} {request : Request} {read : Json → Option α}
  {recover : Trouble → Option (Except Failure α)}

/-- An operation that sends one request fails with trouble that is not made up for. -/
theorem exists_settle_eq_error_iff {outcome : Except Trouble α} :
    (∃ failure, settle concern recover outcome = .error failure) ↔
      ∃ trouble, outcome = .error trouble ∧ ∀ value, recover trouble ≠ some (.ok value) := by
  cases outcome with
  | ok value => simp [settle]
  | error trouble =>
    cases hremedy : recover trouble with
    | none => simp [settle, hremedy]
    | some remedy => cases remedy <;> simp [settle, hremedy]

/-- **What makes an operation fail that sends one request**: the answer to it, or that it cannot be
sent. -/
theorem failsOn_exchangeOr {IsBad : Event Request (fun _ => Answer) → Prop}
    (hbad : ∀ answer : Answer, IsBad ⟨request, answer⟩ ↔
      ∃ trouble, answer.read read = .error trouble ∧ ∀ value, recover trouble ≠ some (.ok value))
    (hunreadable : recover .unreadable = none) :
    (exchangeOr concern request read recover).FailsOn IsBad
      fun _ => request.isSendable = false := by
  intro trace result h
  rcases runs_exchangeOr_iff.mp h with ⟨hsendable, answer, rfl, rfl⟩ | ⟨hsendable, rfl, rfl⟩
  · rw [exists_settle_eq_error_iff, ← hbad]
    simp [hsendable]
  · have hfails : settle concern recover (.error .unreadable) = .error .unreadable := by
      rw [settle, hunreadable]
      rfl
    rw [hfails]
    exact ⟨fun _ => .inr hsendable, fun _ => ⟨_, rfl⟩⟩

end Api

namespace Cluster

variable {settings : ClusterSettings} {id ns name : String} {resource : Resource}
  {trace : List (Event Request fun _ => Answer)}

/-! ## Answers -/

/-- **A list or a deletion that fails.** That a collection or a labelled object is missing is no
failure. -/
def IsFailing (event : Event Request fun _ => Answer) : Prop :=
  match event.1 with
  | .list .. => ∃ trouble, Answer.read objects? event.2 = .error trouble ∧
      trouble.isNotFound = false
  | .delete resource .. => ∃ trouble, Answer.read (deletion? object?) event.2 = .error trouble ∧
      (resource ∈ ownedKinds → trouble.isNotFound = false)
  | _ => False

/-- **A list or a deletion whose answer is read.** -/
def IsRead (event : Event Request fun _ => Answer) : Prop :=
  match event.1 with
  | .list .. => ∃ objects, Answer.read objects? event.2 = .ok objects
  | .delete .. => ∃ done, Answer.read (deletion? object?) event.2 = .ok done
  | _ => False

/-- **A list or a deletion that is refused as what it is about is missing**: a collection, or an
object of a kind that is deleted with a machine. -/
def IsMissing (event : Event Request fun _ => Answer) : Prop :=
  match event.1 with
  | .list .. => ∃ trouble, Answer.read objects? event.2 = .error trouble ∧
      trouble.isNotFound = true
  | .delete resource .. => resource ∈ ownedKinds ∧
      ∃ trouble, Answer.read (deletion? object?) event.2 = .error trouble ∧
        trouble.isNotFound = true
  | _ => False

/-- An answer that is read is no failure, and that something is missing is none. -/
theorem not_isFailing {event : Event Request fun _ => Answer}
    (h : IsRead event ∨ IsMissing event) : ¬IsFailing event := by
  obtain ⟨request, answer⟩ := event
  cases request with
  | list resource ns selector =>
    rintro ⟨trouble, htrouble, hfound⟩
    rcases h with ⟨objects, hread⟩ | ⟨missing, hmissing, hnotFound⟩
    · cases htrouble.symm.trans hread
    · cases htrouble.symm.trans hmissing
      cases hfound.symm.trans hnotFound
  | delete resource ns name inBackground =>
    rintro ⟨trouble, htrouble, hfound⟩
    rcases h with ⟨done, hread⟩ | ⟨hresource, missing, hmissing, hnotFound⟩
    · cases htrouble.symm.trans hread
    · cases htrouble.symm.trans hmissing
      cases (hfound hresource).symm.trans hnotFound
  | version | get | create | merge | apply => exact id

/-! ## Names that are found -/

/-- **A name that is found**: an object of a kind has it in the answer to the list of what is
labelled with an id. -/
def IsFound (id ns : String) (resource : Resource) (name : String)
    (event : Event Request fun _ => Answer) : Prop :=
  event.1 = .list resource ns (some (Ownership.selector id)) ∧
    ∃ objects, Answer.read objects? event.2 = .ok objects ∧
      ∃ object ∈ objects, object.textAt? ["metadata", "name"] = some name

/-- **The loop of a kind is stuck**: its list cannot be sent, or the deletion of an object whose
name it found. -/
def IsStuckAt (id ns : String) (trace : List (Event Request fun _ => Answer))
    (resource : Resource) : Prop :=
  (Request.list resource ns (some (Ownership.selector id))).isSendable = false ∨
    ∃ name, (∃ event ∈ trace, IsFound id ns resource name event) ∧
      (Request.delete resource ns name true).isSendable = false

/-- **A deletion is stuck**: that of the machine itself cannot be sent, or one of its loops is
stuck. -/
def IsStuck (id ns : String) (trace : List (Event Request fun _ => Answer)) : Prop :=
  (Request.delete machines ns id true).isSendable = false ∨
    ∃ resource ∈ ownedKinds, IsStuckAt id ns trace resource

/-- The names that a list brings are those that are found in its answer. -/
theorem mem_names_iff_isFound {names : List String}
    (h : Runs (ownedNames settings resource id ns).run trace (.ok names)) :
    name ∈ names ↔ ∃ event ∈ trace, IsFound id ns resource name event := by
  rw [ownedNames, Operation.runs_bind_ok_iff] at h
  obtain ⟨before, objects, rest, rfl, hlist, hlast⟩ := h
  obtain ⟨rfl, hnames⟩ := Operation.runs_pure_iff.mp hlast
  cases hnames
  rcases runs_exchangeOr_iff.mp hlist with ⟨-, answer, rfl, hsettled⟩ | ⟨-, -, hsettled⟩
  · simp only [List.append_nil, List.mem_singleton, exists_eq_left, IsFound, true_and,
      List.mem_filterMap]
    cases hread : answer.read objects? with
    | ok listed =>
      rw [hread] at hsettled
      cases hsettled
      simp
    -- a missing collection has no objects
    | error trouble =>
      rw [hread] at hsettled
      cases hmissing : trouble.isNotFound with
      | true =>
        simp only [settle, hmissing, if_true] at hsettled
        cases hsettled
        simp
      | false =>
        simp only [settle, hmissing] at hsettled
        cases hsettled
  · cases hsettled

/-- Only lists find names. -/
theorem IsFound.resource?_eq {event : Event Request fun _ => Answer}
    (h : IsFound id ns resource name event) : event.1.resource? = some resource := by
  rw [h.1]
  rfl

/-- Deletions are no lists. -/
theorem delete_ne_list {other : Resource} {selector : Option String} :
    Request.delete resource ns name true ≠ .list other ns selector := by
  rintro ⟨⟩

/-- Where no such list is asked for, no names are found. -/
theorem not_isFound_of_asks {α : Type} {operation : Action α} {IsResult : α → Prop}
    {result : Except Failure α}
    (hasks : operation.Asks
      (fun request => request ≠ .list resource ns (some (Ownership.selector id))) IsResult)
    (h : Runs operation.run trace result) :
    ¬∃ event ∈ trace, IsFound id ns resource name event := by
  rintro ⟨event, hevent, hfound⟩
  exact hasks.of_runs h event hevent hfound.1

theorem exists_isFound_append_iff {before after : List (Event Request fun _ => Answer)} :
    (∃ event ∈ before ++ after, IsFound id ns resource name event) ↔
      (∃ event ∈ before, IsFound id ns resource name event) ∨
        ∃ event ∈ after, IsFound id ns resource name event := by
  simp only [List.mem_append, or_and_right, exists_or]

/-- Names of a kind are found in the share of the kind. -/
theorem exists_isFound_share_iff :
    (∃ event ∈ share Request.resource? resource trace, IsFound id ns resource name event) ↔
      ∃ event ∈ trace, IsFound id ns resource name event := by
  constructor
  · rintro ⟨event, hevent, hfound⟩
    exact ⟨event, (List.mem_filter.mp hevent).1, hfound⟩
  · rintro ⟨event, hevent, hfound⟩
    exact ⟨event, List.mem_filter.mpr ⟨hevent, decide_eq_true hfound.resource?_eq⟩, hfound⟩

/-! ## The requests of a deletion -/

theorem ne_ok_iff_of_isNotFound {α : Type} {found : α} {trouble : Trouble} :
    (∀ value, (if trouble.isNotFound then some (.ok found) else none :
      Option (Except Failure α)) ≠ some (.ok value)) ↔ trouble.isNotFound = false := by
  cases trouble.isNotFound with
  | true => simp
  | false => simp

theorem failsOn_ownedNames :
    (ownedNames settings resource id ns).FailsOn IsFailing
      fun _ => (Request.list resource ns (some (Ownership.selector id))).isSendable = false := by
  rw [ownedNames]
  refine (failsOn_exchangeOr (fun answer => ?_) rfl).bind_pure
  simp only [ne_ok_iff_of_isNotFound]
  rfl

theorem failsOn_deleteOwned (hresource : resource ∈ ownedKinds) :
    (deleteOwned settings resource ns name).FailsOn IsFailing
      fun _ => (Request.delete resource ns name true).isSendable = false := by
  rw [deleteOwned]
  refine failsOn_exchangeOr (fun answer => ?_) rfl
  simp only [ne_ok_iff_of_isNotFound]
  show (∃ trouble, _ ∧ (resource ∈ ownedKinds → _)) ↔ _
  simp only [hresource, true_imp_iff]

theorem failsOn_deleteMachine :
    (deleteMachine settings id ns).FailsOn IsFailing
      fun _ => (Request.delete machines ns id true).isSendable = false := by
  have hmachines : machines ∉ ownedKinds := by decide +kernel
  rw [deleteMachine, exchangeFor]
  refine failsOn_exchangeOr (fun answer => ?_) rfl
  show (∃ trouble, _ ∧ (machines ∈ ownedKinds → _)) ↔ _
  simp [hmachines]

/-! ## Loops, sweeps and deletions -/

/-- **The loop of a kind that has its names** is stuck at those that cannot be deleted. -/
theorem isStuckAt_append_iff {lists rest : List (Event Request fun _ => Answer)}
    {names : List String}
    (hnames : Runs (ownedNames settings resource id ns).run
      (share Request.resource? resource lists) (.ok names))
    (hrest : ∀ name, ¬∃ event ∈ rest, IsFound id ns resource name event) :
    IsStuckAt id ns (lists ++ rest) resource ↔
      ∃ name ∈ names, (Request.delete resource ns name true).isSendable = false := by
  obtain ⟨-, hlist⟩ := failsOn_ownedNames.of_runs_ok hnames
  have hfound (name : String) : (∃ event ∈ lists ++ rest, IsFound id ns resource name event) ↔
      name ∈ names := by
    rw [exists_isFound_append_iff, or_iff_left (hrest name), mem_names_iff_isFound hnames,
      exists_isFound_share_iff]
  simp only [IsStuckAt, hfound]
  exact or_iff_right hlist

/-- **What makes the loop of a kind fail.** -/
theorem failsOn_sweepKind (hresource : resource ∈ ownedKinds) :
    (sweepKind settings id ns resource).FailsOn IsFailing
      fun trace => IsStuckAt id ns trace resource := by
  rw [sweepKind]
  refine failsOn_ownedNames.bind (fun _ => .inl) fun lists names hnames => ?_
  refine (Operation.failsOn_forM fun _ _ => failsOn_deleteOwned hresource).congr
    fun rest result hrest => ?_
  have habout : (ownedNames settings resource id ns).Asks
      (fun request => request.resource? = some resource) fun _ => True := asks_ownedNames rfl
  have hshare := share_eq_self (habout.of_runs hnames)
  refine (isStuckAt_append_iff (hshare.symm ▸ hnames) fun name => ?_).symm
  exact not_isFound_of_asks (Operation.asks_forM fun _ _ => asks_deleteOwned delete_ne_list) hrest

theorem failsOn_listKinds : (listKinds settings id ns).FailsOn IsFailing fun _ =>
    ∃ resource ∈ ownedKinds,
      (Request.list resource ns (some (Ownership.selector id))).isSendable = false := by
  rw [listKinds]
  exact Operation.failsOn_mapM fun resource _ => failsOn_ownedNames.bind_pure

/-- **What makes a sweep fail**: what makes the loop of one of the kinds fail. -/
theorem failsOn_sweep : (sweep settings id ns).FailsOn IsFailing fun trace =>
    ∃ resource ∈ ownedKinds, IsStuckAt id ns trace resource := by
  rw [sweep_eq]
  refine failsOn_listKinds.bind ?_ fun lists found hlists => ?_
  · rintro trace ⟨resource, hresource, hlist⟩
    exact ⟨resource, hresource, .inl hlist⟩
  have hkinds := map_fst_of_runs_listKinds hlists
  have hentries := forall₂_of_runs_listKinds hlists
  refine (Operation.failsOn_forM fun _ hturn => failsOn_deleteOwned
    (mem_ownedKinds_of_mem_inTurns hkinds hturn)).congr fun rest result hrest => ?_
  have hnone (resource : Resource) (name : String) :
      ¬∃ event ∈ rest, IsFound id ns resource name event :=
    not_isFound_of_asks (Operation.asks_forM fun _ _ => asks_deleteOwned delete_ne_list) hrest
  constructor
  · rintro ⟨⟨resource, name⟩, hturn, hdeletion⟩
    obtain ⟨names, hentry, hname⟩ := mem_inTurns_iff.mp hturn
    obtain ⟨_, hresource, rfl, hnames⟩ := exists_mem_of_forall₂ hentries.flip hentry
    exact ⟨_, hresource, (isStuckAt_append_iff hnames (hnone _)).mpr ⟨name, hname, hdeletion⟩⟩
  · rintro ⟨resource, hresource, hstuck⟩
    obtain ⟨⟨_, names⟩, hentry, rfl, hnames⟩ := exists_mem_of_forall₂ hentries hresource
    obtain ⟨name, hname, hdeletion⟩ := (isStuckAt_append_iff hnames (hnone _)).mp hstuck
    exact ⟨(_, name), mem_inTurns_iff.mpr ⟨names, hentry, hname⟩, hdeletion⟩

/-- **What makes a deletion fail.** -/
theorem failsOn_delete (hvalid : validate id = .ok ()) :
    (delete settings id ns).FailsOn IsFailing (IsStuck id ns) := by
  rw [delete_eq hvalid]
  refine failsOn_deleteMachine.bind (fun _ => .inl) fun before done hmachine => ?_
  obtain ⟨-, hsendable⟩ := failsOn_deleteMachine.of_runs_ok hmachine
  refine failsOn_sweep.congr fun rest result hrest => ?_
  -- The deletion of the machine finds nothing.
  have hnone (resource : Resource) (name : String) :
      ¬∃ event ∈ before, IsFound id ns resource name event := by
    have hasks : (deleteMachine settings id ns).Asks
        (fun request => request ≠ .list resource ns (some (Ownership.selector id)))
        fun _ => True := asks_exchangeOr delete_ne_list
    exact not_isFound_of_asks hasks hmachine
  have hfound (resource : Resource) (name : String) :
      (∃ event ∈ before ++ rest, IsFound id ns resource name event) ↔
        ∃ event ∈ rest, IsFound id ns resource name event := by
    rw [exists_isFound_append_iff, or_iff_right (hnone resource name)]
  simp only [IsStuck, IsStuckAt, hfound]
  exact (or_iff_right hsendable).symm

/-- A deletion deletes the machine, and asks what a sweep asks. -/
theorem asks_delete (hvalid : validate id = .ok ()) :
    (delete settings id ns).Asks
      (fun request => request = .delete machines ns id true ∨ IsSwept ns request)
      fun _ => True := by
  rw [delete_eq hvalid, deleteMachine, exchangeFor]
  exact Operation.Asks.bind (asks_exchangeOr (.inl rfl)) fun _ _ => asks_sweep.mono fun _ => .inr

/-- **When a deletion fails**, whatever its id is. -/
theorem exists_error_iff_of_runs_delete {result : Except Failure Unit}
    (h : Runs (delete settings id ns).run trace result) :
    (∃ failure, result = .error failure) ↔
      validate id ≠ .ok () ∨ (∃ event ∈ trace, IsFailing event) ∨ IsStuck id ns trace := by
  cases hvalid : validate id with
  | error failure =>
    rw [delete, hvalid, Operation.ofExcept_error_bind] at h
    obtain ⟨-, rfl⟩ := Operation.runs_throw_iff.mp h
    simp
  | ok =>
    rw [failsOn_delete hvalid trace result h]
    simp

/-- **A deletion is not stuck** in a namespace whose name is a label, when all names that it finds
may stand in paths. -/
theorem not_isStuck (hvalid : validate id = .ok ()) (hns : IsLabelText ns)
    (hnames : ∀ resource ∈ ownedKinds, ∀ name,
      (∃ event ∈ trace, IsFound id ns resource name event) → IsSegment name) :
    ¬IsStuck id ns trace := by
  rintro (hmachine | ⟨resource, hresource, hlist | ⟨name, hfound, hdeletion⟩⟩)
  · rw [isSendable_delete machines_path hns (isLabelText_of_validate hvalid).isSegment] at hmachine
    cases hmachine
  · rw [isSendable_listOwned id hns hresource] at hlist
    cases hlist
  · rw [isSendable_delete (ownedKinds_path resource hresource) hns
      (hnames resource hresource name hfound)] at hdeletion
    cases hdeletion

end Cluster

end VmProvisioning
