import Mathlib.Data.List.Induction
import VmProvisioning.Proofs.Simulation.Independence
import VmProvisioning.Proofs.Text.Pieces

/-!
# Which machines a namespace lists

The registry keeps the machines that were created and have not been deleted since. Listing a
namespace goes through the keys, which are texts made of namespace and id, and takes the namespace
and a slash off their beginnings. What is left is the id of a machine in the namespace, or else,
when a namespace has a slash itself, the rest of such a namespace and the id of a machine in it.

## Main definitions

* `LifeEvent`, `Registry.lifeEvents`: the creations and deletions in a run
* `Stands`: a machine was created and not deleted since
* `Registry.IsKeyed`: the keys of a registry are in order and belong to machines

## Main results

* `Registry.mem_machines_answer_iff`, `Registry.isKeyed_after_and_mem_machines_iff`: the machines in
  a registry are those that stand
* `Registry.mem_idsIn_after_iff`: what a namespace lists
* `Registry.idsIn_after_exact_iff`: when that are the machines in the namespace
* `Registry.idsIn_after_nestedRun`: a namespace that lists a machine of another one
-/

namespace VmProvisioning

/-! ## Creations and deletions -/

/-- Something that happened to a machine, which is given by namespace and id. -/
inductive LifeEvent where
  | created (target : String × String)
  | deleted (target : String × String)
deriving DecidableEq, Repr

/-- What a call has done to a machine when it was answered like this. -/
def Call.lifeEvent? : (call : Call) → call.Reply → Option LifeEvent
  | .create machine datacenter _ _, .ok _ =>
    some (.created (datacenter.workloadNamespace, machine.id))
  | .delete id ns, .ok _ => some (.deleted (ns, id))
  | _, _ => none

/-- **The creations and deletions in a run**, in order. -/
def Registry.lifeEvents : Registry → List (String × Call) → List LifeEvent
  | _, [] => []
  | registry, (now, call) :: calls =>
    (call.lifeEvent? ((answer now call).run registry).1).toList ++
      lifeEvents ((answer now call).run registry).2 calls

/-- **A machine stands**: it was created, and not deleted since. -/
def Stands (events : List LifeEvent) (target : String × String) : Prop :=
  ∃ before later, events = before ++ .created target :: later ∧ .deleted target ∉ later

section Stands

variable {events : List LifeEvent} {target : String × String}

theorem not_stands_nil : ¬ Stands [] target := by
  rintro ⟨before, later, heq, -⟩
  simp at heq

/-- What stands after one more event. -/
theorem stands_concat_iff {event : LifeEvent} : Stands (events ++ [event]) target ↔
    event = .created target ∨ Stands events target ∧ event ≠ .deleted target := by
  constructor
  · rintro ⟨before, later, heq, hlater⟩
    -- The creation is the last event, or comes before it.
    rcases List.eq_nil_or_concat later with rfl | ⟨later, last, rfl⟩
    · obtain ⟨-, hlast⟩ := List.append_inj' heq rfl
      exact .inl (List.cons.inj hlast).1
    · rw [List.concat_eq_append, ← List.cons_append, ← List.append_assoc] at heq
      obtain ⟨rfl, hlast⟩ := List.append_inj' heq rfl
      cases hlast
      rw [List.concat_eq_append, List.mem_append, not_or, List.mem_singleton] at hlater
      exact .inr ⟨⟨before, later, rfl, hlater.1⟩, Ne.symm hlater.2⟩
  · rintro (rfl | ⟨⟨before, later, rfl, hlater⟩, hne⟩)
    · exact ⟨events, [], rfl, List.not_mem_nil⟩
    · exact ⟨before, later ++ [event], by simp, by simp [hlater, hne.symm]⟩

end Stands

namespace Registry

variable {registry changed : Registry} {id ns text key : String}

/-! ## The machines in a registry -/

theorem lifeEvents_append (registry : Registry) (first second : List (String × Call)) :
    registry.lifeEvents (first ++ second) =
      registry.lifeEvents first ++ (registry.after first).lifeEvents second := by
  induction first generalizing registry with
  | nil => rfl
  | cons entry first ih =>
    rw [List.cons_append, lifeEvents, lifeEvents, ih, after_cons, List.append_assoc]

/-- **A call changes which machines are there as its event says.** -/
theorem mem_machines_answer_iff {events : List LifeEvent} (hordered : Fields.IsOrdered registry)
    (h : ∀ target, target ∈ machines registry ↔ Stands events target) (now : String) (call : Call)
    (target : String × String) :
    target ∈ machines ((answer now call).run registry).2 ↔
      Stands (events ++ (call.lifeEvent? ((answer now call).run registry).1).toList) target := by
  cases call with
  | create machine datacenter template base =>
    show target ∈ machines (settle _ _).2 ↔
      Stands (events ++ (Call.lifeEvent? (.create ..) (settle _ _).1).toList) target
    cases hcreate : registry.create machine datacenter template.id now with
    | error failure => simpa [settle, Call.lifeEvent?] using h target
    | ok changed =>
      obtain ⟨-, hmachines⟩ := machines_create hcreate
      show target ∈ machines changed ↔ Stands (events ++ [.created _]) target
      rw [hmachines, Set.mem_insert_iff, h, stands_concat_iff]
      simp [eq_comm]
  | delete id ns =>
    show target ∈ machines (settle _ _).2 ↔
      Stands (events ++ (Call.lifeEvent? (.delete ..) (settle _ _).1).toList) target
    have hmachines := machines_settle_delete id ns hordered
    cases hdelete : registry.delete id ns with
    | error failure => simpa [settle, Call.lifeEvent?] using h target
    | ok changed =>
      rw [hdelete] at hmachines
      show target ∈ machines changed ↔ Stands (events ++ [.deleted (ns, id)]) target
      rw [show machines changed = _ from hmachines, Set.mem_ofPred_eq, h, stands_concat_iff]
      simp [eq_comm]
  | _ =>
    rw [machines_answer_of_keeps now rfl, h]
    simp [Call.lifeEvent?]

/-- **The keys of a registry** are in order, and all belong to machines. -/
structure IsKeyed (registry : Registry) : Prop where
  isOrdered : Fields.IsOrdered registry
  keys : ∀ key ∈ Fields.keys registry, ∃ id ns, Registry.key id ns = .ok key

theorem isKeyed_nil : IsKeyed [] where
  isOrdered := Fields.isOrdered_nil
  keys _ h := by cases h

theorem IsKeyed.insert {registered : Registered} (h : registry.IsKeyed)
    (hkey : Registry.key id ns = .ok key) : IsKeyed (Fields.insert registry key registered) where
  isOrdered := h.isOrdered.insert
  keys other hother := by
    rcases Fields.mem_keys_insert.mp hother with rfl | hmem
    · exact ⟨id, ns, hkey⟩
    · exact h.keys other hmem

theorem IsKeyed.change (h : registry.IsKeyed) (hchange : Change registry changed) :
    changed.IsKeyed := by
  cases hchange with
  | none => exact h
  | create machine datacenterId templateId now hkey hget => exact h.insert hkey
  | run hkey hget => exact h.insert hkey
  | restart hkey hget hphase => exact h.insert hkey
  | stop hkey hget => exact h.insert hkey
  | delete hkey hget =>
    exact ⟨h.isOrdered.erase, fun key hmem =>
      h.keys key ((Fields.erase_sublist.map Prod.fst).subset hmem)⟩

/-- **The machines in a registry are those that stand**, and each has its key there. -/
theorem isKeyed_after_and_mem_machines_iff (calls : List (String × Call)) :
    IsKeyed (after [] calls) ∧
      ∀ target, target ∈ machines (after [] calls) ↔ Stands (lifeEvents [] calls) target := by
  -- Induction on the calls from the last one, as an event is added behind the others.
  induction calls using List.reverseRecOn with
  | nil =>
    refine ⟨isKeyed_nil, fun target => ?_⟩
    have hnone : target ∉ machines [] := by
      rintro ⟨registered, hfind⟩
      obtain ⟨key, -, hget⟩ := find_eq_ok_iff.mp hfind
      cases hget
    exact iff_of_false hnone not_stands_nil
  | append_singleton calls entry ih =>
    obtain ⟨hkeyed, hmachines⟩ := ih
    rw [after_append, lifeEvents_append]
    refine ⟨hkeyed.change (answer_change entry.1 entry.2 _), fun target => ?_⟩
    rw [lifeEvents, lifeEvents, List.append_nil]
    exact mem_machines_answer_iff hkeyed.isOrdered hmachines entry.1 entry.2 target

/-! ## The listing -/

theorem IsKeyed.mem_keys_iff (h : registry.IsKeyed) : key ∈ Fields.keys registry ↔
    ∃ id ns, Registry.key id ns = .ok key ∧ (ns, id) ∈ machines registry := by
  rw [← Fields.get?_isSome_iff, Option.isSome_iff_exists]
  constructor
  · rintro ⟨registered, hget⟩
    obtain ⟨id, ns, hkey⟩ := h.keys key (Fields.get?_isSome_iff.mp (by simp [hget]))
    exact ⟨id, ns, hkey, (mem_machines_iff hkey).mpr ⟨registered, hget⟩⟩
  · rintro ⟨id, ns, hkey, hmem⟩
    exact (mem_machines_iff hkey).mp hmem

/-- A text is listed when a key is made of the namespace and the text. -/
theorem mem_idsIn_iff : text ∈ idsIn registry ns ↔ ns ++ "/" ++ text ∈ Fields.keys registry := by
  simp only [idsIn, List.mem_filterMap, Option.map_eq_some_iff, Text.dropPrefix?_eq_some_iff]
  constructor
  · rintro ⟨key, hkey, rest, hrest, rfl⟩
    have hjoined : key = ns ++ "/" ++ String.ofList rest :=
      String.toList_inj.mp (by simpa using hrest)
    exact hjoined ▸ hkey
  · intro hmem
    exact ⟨_, hmem, text.toList, by simp, String.ofList_toList⟩

/-- What is listed is in order, as the keys are. -/
theorem pairwise_idsIn (hordered : Fields.IsOrdered registry) :
    (idsIn registry ns).Pairwise (· < ·) := by
  -- All keys that are taken begin alike.
  have hmono : StrictMono ((ns ++ "/").toList ++ ·) := fun _ _ => List.append_left_lt
  refine List.Pairwise.filterMap _ ?_ hordered
  intro key key' hlt text htext text' htext'
  obtain ⟨rest, hrest, rfl⟩ := Option.map_eq_some_iff.mp htext
  obtain ⟨rest', hrest', rfl⟩ := Option.map_eq_some_iff.mp htext'
  rw [Text.dropPrefix?_eq_some_iff] at hrest hrest'
  rw [String.lt_iff_toList_lt, hrest, hrest'] at hlt
  rw [String.lt_iff_toList_lt, String.toList_ofList, String.toList_ofList]
  exact hmono.lt_iff_lt.mp hlt

/-- A key that begins with a namespace and a slash is that of a machine in the namespace, or of one
in a namespace that begins so itself. -/
theorem key_eq_join_iff {id' ns' : String} (hkey : Registry.key id' ns' = .ok key) :
    key = ns ++ "/" ++ text ↔
      ns' = ns ∧ id' = text ∨ ∃ rest, ns' = ns ++ "/" ++ rest ∧ text = rest ++ "/" ++ id' := by
  obtain ⟨hvalid, rfl⟩ := key_eq_ok_iff.mp hkey
  have hslash : '/' ∉ id'.toList := (DnsLabel.isLabelText_of_validate hvalid).slash_notMem
  constructor
  · intro h
    have hchars : ns'.toList ++ '/' :: id'.toList = ns.toList ++ '/' :: text.toList := by
      simpa using congrArg String.toList h
    rcases (append_slash_eq_iff hslash).mp hchars with ⟨hns, hid⟩ | ⟨middle, hns, htext⟩
    · exact .inl ⟨String.toList_inj.mp hns, String.toList_inj.mp hid⟩
    · exact .inr ⟨String.ofList middle, String.toList_inj.mp (by simp [hns]),
        String.toList_inj.mp (by simp [htext])⟩
  · rintro (⟨rfl, rfl⟩ | ⟨rest, rfl, rfl⟩)
    · rfl
    · simp [String.append_assoc]

/-- **What a namespace lists**: the ids of the machines that stand in it, and the rests of those
that stand in a namespace that goes on behind a slash. -/
theorem mem_idsIn_after_iff (calls : List (String × Call)) :
    text ∈ idsIn (after [] calls) ns ↔ Stands (lifeEvents [] calls) (ns, text) ∨
      ∃ rest id, Stands (lifeEvents [] calls) (ns ++ "/" ++ rest, id) ∧
        text = rest ++ "/" ++ id := by
  obtain ⟨hkeyed, hmachines⟩ := isKeyed_after_and_mem_machines_iff calls
  have hkey : ∀ id ns, Stands (lifeEvents [] calls) (ns, id) →
      Registry.key id ns = .ok (ns ++ "/" ++ id) :=
    fun id ns hstands => key_of_mem_machines ((hmachines (ns, id)).mpr hstands)
  rw [mem_idsIn_iff, hkeyed.mem_keys_iff]
  constructor
  · rintro ⟨id, ns', hjoin, hmem⟩
    have hstands := (hmachines (ns', id)).mp hmem
    rcases (key_eq_join_iff hjoin).mp rfl with ⟨rfl, rfl⟩ | ⟨rest, rfl, rfl⟩
    · exact .inl hstands
    · exact .inr ⟨rest, id, hstands, rfl⟩
  · rintro (hstands | ⟨rest, id, hstands, rfl⟩)
    · exact ⟨text, ns, hkey text ns hstands, (hmachines _).mpr hstands⟩
    · have hjoin := hkey id (ns ++ "/" ++ rest) hstands
      rw [(key_eq_join_iff hjoin).mpr (.inr ⟨rest, rfl, rfl⟩)] at hjoin
      exact ⟨id, ns ++ "/" ++ rest, hjoin, (hmachines _).mpr hstands⟩

/-- **A namespace lists its machines in order, and others below it.** Each text in the listing is
the id of a machine that was created in the namespace and not deleted since, or the rest of a longer
namespace with the id of such a machine in it. So the listing is exact just when no machine stands
in a namespace that goes on behind a slash. -/
theorem idsIn_after_exact_iff (calls : List (String × Call)) (ns : String) :
    (idsIn (after [] calls) ns).Pairwise (· < ·) ∧
      (∀ text, text ∈ idsIn (after [] calls) ns ↔ Stands (lifeEvents [] calls) (ns, text) ∨
        ∃ rest id, Stands (lifeEvents [] calls) (ns ++ "/" ++ rest, id) ∧
          text = rest ++ "/" ++ id) ∧
      ((∀ id, id ∈ idsIn (after [] calls) ns ↔ Stands (lifeEvents [] calls) (ns, id)) ↔
        ∀ rest id, ¬ Stands (lifeEvents [] calls) (ns ++ "/" ++ rest, id)) := by
  obtain ⟨hkeyed, hmachines⟩ := isKeyed_after_and_mem_machines_iff calls
  refine ⟨pairwise_idsIn hkeyed.isOrdered, fun text => mem_idsIn_after_iff calls, ?_⟩
  constructor
  -- An id has no slash, so nothing with a slash stands in the namespace.
  · intro hexact rest id hstands
    have hlisted : rest ++ "/" ++ id ∈ idsIn (after [] calls) ns :=
      (mem_idsIn_after_iff calls).mpr (.inr ⟨rest, id, hstands, rfl⟩)
    have hjoin := key_of_mem_machines ((hmachines _).mpr ((hexact _).mp hlisted))
    have hlabel := DnsLabel.isLabelText_of_validate (key_eq_ok_iff.mp hjoin).1
    exact hlabel.slash_notMem (by simp)
  · intro hnone id
    rw [mem_idsIn_after_iff]
    refine or_iff_left ?_
    rintro ⟨rest, id', hstands, -⟩
    exact hnone rest id' hstands

/-- A run that creates a machine in a namespace with a slash. -/
def nestedRun : List (String × Call) :=
  [("2024-05-01T12:00:00Z", .create (Machine.new "web" "Web" 1 "2Gi" "30Gi")
    ⟨"acme", "acme", "acme/dev", ⟨0, 0, 0⟩, none⟩ (.new "fedora") none)]

/-- The first part of the namespace lists something, but no machine stands in it. -/
theorem idsIn_after_nestedRun : idsIn (after [] nestedRun) "acme" = ["dev/web"] ∧
    ∀ id, ¬ Stands (lifeEvents [] nestedRun) ("acme", id) := by
  have hevents : lifeEvents [] nestedRun = [] ++ [.created ("acme/dev", "web")] := by
    decide +kernel
  refine ⟨by decide +kernel, fun id => ?_⟩
  rw [hevents, stands_concat_iff]
  simp [not_stands_nil]

end Registry

end VmProvisioning
