import Mathlib.Data.List.Forall2
import VmProvisioning.Machine.Status
import VmProvisioning.Proofs.Json.Lookup

/-!
# What the status of a machine is made from

A status is read from two documents of any shape. Each part of it is told here by what is found in
the documents, without the readers: a list has one entry for each entry of an array, in order, a
field is the text that is found or empty, and nothing else of the documents matters.

## Main definitions

* `Condition.IsEntryOf`, `NetworkInterface.IsEntryOf`: the record of an entry of any shape
* `NetworkInterface.IsFirstAddress`: the first address that is not empty
* `Phase.IsReportedBy`, `MachineStatus.IsReportOf`: the phase and the status of a machine by its
  two documents
* `MachineStatus.heldAt?`: what an instance holds at a path

## Main results

* `MachineStatus.ofObjects_eq_ok_iff`: a machine has this status and no other
* `MachineStatus.ofObjects_of_not_isObject`: an instance that is no object counts as none
* `MachineStatus.ofObjects_congr`: the parts of the documents that matter
* `MachineStatus.ofObjects_reports_and_congr`: all of these together
-/

namespace VmProvisioning

/-! ## Entries -/

/-- A list is made from each entry of another one when it is related to it entry by entry. -/
theorem forall₂_iff_map_eq {α β : Type} {make : α → β} {relates : α → β → Prop}
    (h : ∀ entry made, relates entry made ↔ make entry = made) {entries : List α}
    {list : List β} : List.Forall₂ relates entries list ↔ entries.map make = list := by
  have heq : relates = fun entry made => make entry = made := by
    funext entry made
    exact propext (h entry made)
  rw [heq, ← List.forall₂_map_left_iff, List.forall₂_eq_eq_eq]

/-- **The condition of an entry**: each field is the text that is found in the entry, or empty. -/
structure Condition.IsEntryOf (entry : Json) (condition : Condition) : Prop where
  type : Json.IsContentOf .text "" (entry.at? ["type"]) condition.type
  status : Json.IsContentOf .text "" (entry.at? ["status"]) condition.status
  reason : Json.IsContentOf .text "" (entry.at? ["reason"]) condition.reason

theorem Condition.isEntryOf_iff (entry : Json) (condition : Condition) :
    condition.IsEntryOf entry ↔ Condition.ofReport entry = condition := by
  constructor
  · rintro ⟨htype, hstatus, hreason⟩
    rw [Json.isContentOf_text_iff] at htype hstatus hreason
    simp only [ofReport, textOrEmpty, htype, hstatus, hreason]
  · rintro rfl
    exact ⟨Json.isContentOf_text_iff.mpr rfl, Json.isContentOf_text_iff.mpr rfl,
      Json.isContentOf_text_iff.mpr rfl⟩

theorem Condition.forall₂_isEntryOf_iff {entries : List Json} {conditions : List Condition} :
    List.Forall₂ Condition.IsEntryOf entries conditions ↔
      entries.map Condition.ofReport = conditions :=
  forall₂_iff_map_eq Condition.isEntryOf_iff

namespace NetworkInterface

/-- **The interface of an entry**: each field is the text that is found in the entry, or empty. -/
structure IsEntryOf (entry : Json) (interface : NetworkInterface) : Prop where
  name : Json.IsContentOf .text "" (entry.at? ["name"]) interface.name
  ipAddress : Json.IsContentOf .text "" (entry.at? ["ipAddress"]) interface.ipAddress
  mac : Json.IsContentOf .text "" (entry.at? ["mac"]) interface.mac

theorem isEntryOf_iff (entry : Json) (interface : NetworkInterface) :
    interface.IsEntryOf entry ↔ NetworkInterface.ofReport entry = interface := by
  constructor
  · rintro ⟨hname, haddress, hmac⟩
    rw [Json.isContentOf_text_iff] at hname haddress hmac
    simp only [ofReport, textOrEmpty, hname, haddress, hmac]
  · rintro rfl
    exact ⟨Json.isContentOf_text_iff.mpr rfl, Json.isContentOf_text_iff.mpr rfl,
      Json.isContentOf_text_iff.mpr rfl⟩

theorem forall₂_isEntryOf_iff {entries : List Json} {interfaces : List NetworkInterface} :
    List.Forall₂ IsEntryOf entries interfaces ↔
      entries.map NetworkInterface.ofReport = interfaces :=
  forall₂_iff_map_eq isEntryOf_iff

/-- **The first address of interfaces that is not empty**, if there is one. -/
inductive IsFirstAddress (interfaces : List NetworkInterface) : Option String → Prop
  | first {before after : List NetworkInterface} {interface : NetworkInterface} :
    interfaces = before ++ interface :: after → (∀ other ∈ before, other.ipAddress = "") →
    interface.ipAddress ≠ "" → IsFirstAddress interfaces (some interface.ipAddress)
  | none : (∀ interface ∈ interfaces, interface.ipAddress = "") → IsFirstAddress interfaces none

theorem isFirstAddress_iff {interfaces : List NetworkInterface} {address : Option String} :
    IsFirstAddress interfaces address ↔
      (interfaces.map ipAddress).find? (· ≠ "") = address := by
  constructor
  · rintro (⟨rfl, hbefore, hne⟩ | hempty)
    · have hskipped : (List.map ipAddress _).find? (· ≠ "") = none :=
        List.find?_eq_none.mpr (by simpa using hbefore)
      rw [List.map_append, List.find?_append, hskipped]
      simp [hne]
    · rw [List.find?_eq_none]
      simpa using hempty
  · rintro rfl
    cases hfind : (interfaces.map ipAddress).find? (· ≠ "") with
    | none =>
      rw [List.find?_eq_none] at hfind
      exact .none (by simpa using hfind)
    | some address =>
      rw [List.find?_map, Option.map_eq_some_iff] at hfind
      obtain ⟨interface, hinterface, rfl⟩ := hfind
      obtain ⟨hne, before, after, rfl, hbefore⟩ := List.find?_eq_some_iff_append.mp hinterface
      exact .first rfl (by simpa using hbefore) (by simpa using hne)

end NetworkInterface

/-! ## Phases -/

/-- **The phase of a machine by its two documents.** Without an instance that is an object it is
stopped. The phase that the instance reports counts when it is not empty, and the readiness that
the lasting object reports otherwise. -/
inductive Phase.IsReportedBy (primary : Json) (inst? : Option Json) : Phase → Prop
  | absent : (∀ inst ∈ inst?, inst.isObject = false) → IsReportedBy primary inst? .stopped
  | named {inst : Json} {name : String} : inst? = some inst → inst.isObject = true →
    inst.at? ["status", "phase"] = some (.text name) → name ≠ "" →
    IsReportedBy primary inst? (.ofName name)
  | unnamed {inst : Json} {ready : Bool} : inst? = some inst → inst.isObject = true →
    (∀ name, inst.at? ["status", "phase"] = some (.text name) → name = "") →
    Json.IsContentOf .bool false (primary.at? ["status", "ready"]) ready →
    IsReportedBy primary inst? (if ready then .running else .stopped)

theorem Phase.isReportedBy_iff {primary : Json} {inst? : Option Json} {phase : Phase} :
    phase.IsReportedBy primary inst? ↔
      Phase.ofInstance (inst?.filter Json.isObject)
        ((primary.boolAt? ["status", "ready"]).getD false) = phase := by
  constructor
  · rintro (habsent | ⟨rfl, hobject, hname, hne⟩ | ⟨rfl, hobject, hunnamed, hready⟩)
    · rw [Option.filter_eq_none_iff.mpr (by simpa using habsent), ofInstance]
    · rw [Option.filter_some_pos hobject, ofInstance,
        Json.nonEmptyTextAt?_eq_some_text_iff.mpr ⟨hname, hne⟩]
    · rename_i inst ready
      have hnone : inst.nonEmptyTextAt? ["status", "phase"] = none := by
        rw [Option.eq_none_iff_forall_ne_some]
        intro name hname
        obtain ⟨hfound, hne⟩ := Json.nonEmptyTextAt?_eq_some_text_iff.mp hname
        exact hne (hunnamed name hfound)
      rw [Option.filter_some_pos hobject, ofInstance, hnone, Json.isContentOf_bool_iff.mp hready]
  · rintro rfl
    cases hfilter : inst?.filter Json.isObject with
    | none =>
      rw [Option.filter_eq_none_iff] at hfilter
      exact .absent (by simpa using hfilter)
    | some inst =>
      obtain ⟨hinst, hobject⟩ := Option.filter_eq_some_iff.mp hfilter
      rw [ofInstance]
      split
      · next name hname =>
        obtain ⟨hfound, hne⟩ := Json.nonEmptyTextAt?_eq_some_text_iff.mp hname
        exact .named hinst hobject hfound hne
      · next hnone =>
        refine .unnamed hinst hobject (fun name hfound => ?_) (Json.isContentOf_bool_iff.mpr rfl)
        by_contra hne
        rw [Json.nonEmptyTextAt?_eq_some_text_iff.mpr ⟨hfound, hne⟩] at hnone
        cases hnone

/-! ## Statuses -/

namespace MachineStatus

/-- **The status of a machine by its two documents**, of which the instance may be missing. -/
structure IsReportOf (primary : Json) (inst? : Option Json) (status : MachineStatus) : Prop where
  phase : status.phase.IsReportedBy primary inst?
  ready : Json.IsContentOf .bool false (primary.at? ["status", "ready"]) status.ready
  address : NetworkInterface.IsFirstAddress status.interfaces status.ipAddress
  node : ∀ name, status.nodeName = some name ↔
    (inst?.bind (·.at? ["status", "nodeName"])) = some (.text name) ∧ name ≠ ""
  /-- There is one condition for each entry, in order. -/
  conditions : ∃ entries,
    Json.IsContentOf .array [] (primary.at? ["status", "conditions"]) entries ∧
      List.Forall₂ Condition.IsEntryOf entries status.conditions
  /-- There is one interface for each entry, in order. -/
  interfaces : ∃ entries,
    Json.IsContentOf .array [] (inst?.bind (·.at? ["status", "interfaces"])) entries ∧
      List.Forall₂ NetworkInterface.IsEntryOf entries status.interfaces
  annotations : ∃ members,
    Json.IsContentOf .object [] (primary.at? ["metadata", "annotations"]) members ∧
      status.annotations = members.filterMap fun (key, member) =>
        member.text?.map fun text => (key, text)

section Objects

variable {primary : Json} {inst? : Option Json} {status : MachineStatus} {key : String}
  {path : List String}

/-- An instance that is no object holds nothing, so that it need not be left out. -/
theorem bind_filter_at? :
    ((inst?.filter Json.isObject).bind fun inst => inst.at? (key :: path)) =
      inst?.bind fun inst => inst.at? (key :: path) := by
  cases inst? with
  | none => rfl
  | some inst =>
    cases hobject : inst.isObject with
    | false =>
      rw [Option.filter_some_neg (by simpa using hobject), Option.bind_none, Option.bind_some,
        Json.at?_cons_of_not_isObject hobject]
    | true => rw [Option.filter_some_pos hobject]

theorem interfaces_iff {items : List Json} :
    Json.IsContentOf .array [] (inst?.bind fun inst => inst.at? (key :: path)) items ↔
      ((inst?.filter Json.isObject).map fun inst => inst.itemsAt (key :: path)).getD [] =
        items := by
  rw [← bind_filter_at?]
  cases inst?.filter Json.isObject with
  | none =>
    constructor
    · rintro (⟨⟨⟩⟩ | -)
      rfl
    · rintro rfl
      exact .missing nofun
  | some inst => exact Json.isContentOf_array_iff

theorem node_iff {name : String} :
    ((inst?.filter Json.isObject).bind fun inst => inst.nonEmptyTextAt? (key :: path)) =
        some name ↔
      (inst?.bind fun inst => inst.at? (key :: path)) = some (.text name) ∧ name ≠ "" := by
  rw [← bind_filter_at?]
  cases inst?.filter Json.isObject with
  | none => simp
  | some inst => exact Json.nonEmptyTextAt?_eq_some_text_iff

/-- **A machine has this status** and no other, whatever the shape of its documents. -/
theorem ofObjects_eq_ok_iff :
    ofObjects primary inst? = .ok status ↔
      primary.isObject = true ∧ status.IsReportOf primary inst? := by
  constructor
  · intro h
    rw [ofObjects] at h
    split at h
    · cases h
    · next hobject =>
      cases h
      refine ⟨by simpa using hobject, ?_⟩
      exact {
        phase := Phase.isReportedBy_iff.mpr rfl
        ready := Json.isContentOf_bool_iff.mpr rfl
        address := NetworkInterface.isFirstAddress_iff.mpr rfl
        node := fun name => node_iff
        conditions := ⟨_, Json.isContentOf_array_iff.mpr rfl,
          Condition.forall₂_isEntryOf_iff.mpr rfl⟩
        interfaces := ⟨_, interfaces_iff.mpr rfl, NetworkInterface.forall₂_isEntryOf_iff.mpr rfl⟩
        annotations := Json.exists_isContentOf_object_iff.mpr rfl }
  · rintro ⟨hobject, hreport⟩
    obtain ⟨entries, hentries, hconditions⟩ := hreport.conditions
    obtain ⟨items, hitems, hinterfaces⟩ := hreport.interfaces
    have hnode : ((inst?.filter Json.isObject).bind fun inst =>
        inst.nonEmptyTextAt? ["status", "nodeName"]) = status.nodeName := by
      ext name
      rw [node_iff, hreport.node]
    have hphase : Phase.ofInstance (inst?.filter Json.isObject) status.ready = status.phase := by
      rw [← Json.isContentOf_bool_iff.mp hreport.ready]
      exact Phase.isReportedBy_iff.mp hreport.phase
    -- Every reader gives the field of the status that has been described.
    rw [ofObjects, if_neg (by simpa using hobject)]
    simp only [Json.isContentOf_array_iff.mp hentries, interfaces_iff.mp hitems,
      Condition.forall₂_isEntryOf_iff.mp hconditions,
      NetworkInterface.forall₂_isEntryOf_iff.mp hinterfaces, hnode, hphase,
      Json.exists_isContentOf_object_iff.mp hreport.annotations,
      NetworkInterface.isFirstAddress_iff.mp hreport.address,
      Json.isContentOf_bool_iff.mp hreport.ready]

theorem ofObjects_eq_error_iff :
    (∃ failure, ofObjects primary inst? = .error failure) ↔ primary.isObject = false := by
  rw [ofObjects]
  split
  · next hobject => simpa using hobject
  · next hobject => simpa using hobject

/-- **An instance that is no object** counts as none, and the machine is stopped. -/
theorem ofObjects_of_not_isObject (h : ∀ inst ∈ inst?, inst.isObject = false) :
    ofObjects primary inst? = ofObjects primary none ∧
      ∀ status, ofObjects primary inst? = .ok status →
        status.phase = .stopped ∧ status.ipAddress = none ∧ status.nodeName = none ∧
          status.interfaces = [] := by
  have hfilter : inst?.filter Json.isObject = none :=
    Option.filter_eq_none_iff.mpr (by simpa using h)
  rw [ofObjects, hfilter]
  refine ⟨rfl, fun status hstatus => ?_⟩
  split at hstatus
  · cases hstatus
  · cases hstatus
    exact ⟨rfl, rfl, rfl, rfl⟩

/-- What the lasting object says about the status. -/
def primaryPaths : List (List String) :=
  [["status", "ready"], ["status", "conditions"], ["metadata", "annotations"]]

/-- What an instance says about the status. -/
def instancePaths : List (List String) :=
  [["status", "phase"], ["status", "nodeName"], ["status", "interfaces"]]

/-- **What an instance holds at a path**, which may be nothing. Where there is no instance, or one
that is no object, there is not even a place for it. -/
def heldAt? (inst? : Option Json) (path : List String) : Option (Option Json) :=
  (inst?.filter Json.isObject).map fun inst => inst.at? path

/-- **Nothing else of the documents matters.** -/
theorem ofObjects_congr {primary' : Json} {inst?' : Option Json}
    (hobject : primary.isObject = primary'.isObject)
    (hprimary : ∀ path ∈ primaryPaths, primary.at? path = primary'.at? path)
    (hinst : ∀ path ∈ instancePaths, heldAt? inst? path = heldAt? inst?' path) :
    ofObjects primary inst? = ofObjects primary' inst?' := by
  simp only [primaryPaths, List.forall_mem_cons] at hprimary
  obtain ⟨hready, hconditions, hannotations, -⟩ := hprimary
  simp only [instancePaths, List.forall_mem_cons, heldAt?] at hinst
  obtain ⟨hphase, hnode, hinterfaces, -⟩ := hinst
  rw [ofObjects, ofObjects, hobject, Json.boolAt?_congr hready, Json.itemsAt_congr hconditions,
    Json.textsAt_congr hannotations]
  -- There is an instance on both sides or on none.
  cases hfilter : inst?.filter Json.isObject with
  | none =>
    cases hfilter' : inst?'.filter Json.isObject with
    | none => rfl
    | some inst' => simp [hfilter, hfilter'] at hphase
  | some inst =>
    cases hfilter' : inst?'.filter Json.isObject with
    | none => simp [hfilter, hfilter'] at hphase
    | some inst' =>
      simp only [hfilter, hfilter', Option.map_some, Option.some_inj] at hphase hnode hinterfaces
      simp only [Phase.ofInstance, Option.map_some, Option.bind_some,
        Json.nonEmptyTextAt?_congr hphase, Json.nonEmptyTextAt?_congr hnode,
        Json.itemsAt_congr hinterfaces]

end Objects

/-- **A status is made for every lasting object** and no other value. It reports what its two
documents say, entry by entry, an instance that is no object counts as none, and what else stands
in the documents does not matter. -/
theorem ofObjects_reports_and_congr (primary : Json) (inst? : Option Json) :
    ((∃ failure, ofObjects primary inst? = .error failure) ↔ primary.isObject = false) ∧
      (∀ status, ofObjects primary inst? = .ok status ↔
        primary.isObject = true ∧ status.IsReportOf primary inst?) ∧
      ((∀ inst ∈ inst?, inst.isObject = false) →
        ofObjects primary inst? = ofObjects primary none ∧
          ∀ status, ofObjects primary inst? = .ok status →
            status.phase = .stopped ∧ status.ipAddress = none ∧ status.nodeName = none ∧
              status.interfaces = []) ∧
      ∀ primary' inst?', primary.isObject = primary'.isObject →
        (∀ path ∈ primaryPaths, primary.at? path = primary'.at? path) →
        (∀ path ∈ instancePaths, heldAt? inst? path = heldAt? inst?' path) →
        ofObjects primary inst? = ofObjects primary' inst?' :=
  ⟨ofObjects_eq_error_iff, fun _ => ofObjects_eq_ok_iff, ofObjects_of_not_isObject,
    fun _ _ => ofObjects_congr⟩

/-- A lasting object with conditions of which only the first one is whole. -/
def partialPrimary : Json :=
  .nest ["status"] (.object [
    ("conditions", .array [
      .object [("reason", .text ""), ("status", .text "True"), ("type", .text "Ready")],
      .int 7, .object [("type", .null)]]),
    ("ready", .bool true)])

/-- An instance without a phase, and with interfaces of which only the last one has an address. -/
def partialInstance : Json :=
  .nest ["status"] (.object [
    ("interfaces", .array [.null, .object [("ipAddress", .int 10), ("name", .text "default")],
      .object [("ipAddress", .text "10.0.0.7")]]),
    ("phase", .text "")])

theorem ofObjects_partialPrimary_reports_and_congr :
    (∃ status, ofObjects partialPrimary (some partialInstance) = .ok status ∧
      status.IsReportOf partialPrimary (some partialInstance) ∧ status.phase = .running ∧
      status.conditions = [⟨"Ready", "True", ""⟩, ⟨"", "", ""⟩, ⟨"", "", ""⟩] ∧
      status.ipAddress = some "10.0.0.7") ∧
    ofObjects partialPrimary (some (.array [partialInstance])) = ofObjects partialPrimary none ∧
    ofObjects partialPrimary (some partialInstance) =
      ofObjects (partialPrimary.merge (.nest ["spec", "running"] (.bool false)))
        (some (partialInstance.merge (.nest ["status", "reason"] (.text "Migrated")))) := by
  obtain ⟨-, hreports, -, hcongr⟩ :=
    ofObjects_reports_and_congr partialPrimary (some partialInstance)
  obtain ⟨-, -, habsent, -⟩ :=
    ofObjects_reports_and_congr partialPrimary (some (.array [partialInstance]))
  refine ⟨⟨_, rfl, ((hreports _).mp rfl).2, ?_, ?_, ?_⟩, (habsent ?_).1, hcongr _ _ ?_ ?_ ?_⟩ <;>
    decide

end MachineStatus

end VmProvisioning
