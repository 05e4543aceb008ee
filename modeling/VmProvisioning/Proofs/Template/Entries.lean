import VmProvisioning.Proofs.Fields
import VmProvisioning.Template.Reference

/-!
# The entries that putting in values keeps

Values are put into the keys of an object as well, and two keys may become one text. An object has
one value under each key, so of the entries whose keys become one text it keeps the last one only.
Arrays keep all their items, and objects all their entries as long as their keys stay apart.

## Main definitions

* `Json.Step`, `Json.part?`: the parts of a document, by paths into its arrays and objects
* `Reference.KeepsEntries`: a part of a document that loses nothing
* `Reference.filledKeys`, `Reference.KeysStayApart`: the keys of objects with values in place of
  references

## Main results

* `keepsEntries_parts_iff`, `part?_fill`: when nothing is lost, and where each part is found again
* `fill_entries`: what becomes of the entries of a document
-/

namespace VmProvisioning

/-! ## Parts of documents -/

namespace Json

/-- A step into a document: to an item of an array or a member of an object. -/
inductive Step where
  | item (index : Nat)
  | member (key : String)

/-- The item or member that a step leads to. -/
def child? : Json → Step → Option Json
  | array items, .item index => items[index]?
  | object members, .member key => Fields.get? members key
  | _, _ => none

/-- **The part of a document** at the end of a path. -/
def part? (document : Json) : List Step → Option Json
  | [] => some document
  | step :: path => (document.child? step).bind fun child => child.part? path

end Json

open Json

namespace Reference

variable {values : Fields String} {document part : Json} {members : List (String × Json)}
  {path : List Step}

/-! ## Items and members -/

theorem fillItems_eq_map (items : List Json) :
    fillItems values items = items.map (fill values) := by
  induction items with
  | nil => rfl
  | cons item rest ih => rw [fillItems, ih, List.map_cons]

theorem fillMembers_eq_map (members : List (String × Json)) :
    fillMembers values members =
      members.map fun member => (fillText values member.1, fill values member.2) := by
  induction members with
  | nil => rfl
  | cons member rest ih => rw [fillMembers, ih, List.map_cons]

/-- **The keys of an object** with values in place of references. -/
def filledKeys (values : Fields String) (members : List (String × Json)) : List String :=
  members.map fun member => fillText values member.1

theorem keys_fillMembers :
    Fields.keys (fillMembers values members) = filledKeys values members := by
  rw [fillMembers_eq_map, Fields.keys, List.map_map]
  rfl

theorem fill_array (items : List Json) :
    fill values (.array items) = .array (items.map (fill values)) := by
  rw [fill, fillItems_eq_map]

theorem fill_object (members : List (String × Json)) :
    fill values (.object members) = .object (Fields.ofList (fillMembers values members)) := by
  rw [fill, ofMembers]

/-- Under each key there is the last entry whose key becomes it. -/
theorem get?_ofList_fillMembers (members : List (String × Json)) (key : String) :
    Fields.get? (Fields.ofList (fillMembers values members)) key =
      ((members.filter fun member => fillText values member.1 = key).getLast?).map
        fun member => fill values member.2 := by
  rw [Fields.get?_ofList_eq_getLast?, fillMembers_eq_map, List.filter_map, List.getLast?_map,
    Option.map_map]
  rfl

/-! ## What is kept -/

/-- **A part of a document that loses nothing**: an array keeps its items in order, an object all
its entries, each with its key and its value filled in. -/
def KeepsEntries (values : Fields String) : Json → Prop
  | .array items => ∃ kept, fill values (.array items) = .array kept ∧
      kept.length = items.length ∧ ∀ index : Nat, kept[index]? = items[index]?.map (fill values)
  | .object members => ∃ kept, fill values (.object members) = .object kept ∧
      kept.length = members.length ∧
        ∀ key value, (key, value) ∈ members → (fillText values key, fill values value) ∈ kept
  | _ => True

theorem keepsEntries_array (items : List Json) : KeepsEntries values (.array items) := by
  refine ⟨_, fill_array items, List.length_map _, fun index => ?_⟩
  rw [List.getElem?_map]

/-- **An object loses nothing** just when its keys stay apart. -/
theorem keepsEntries_object_iff :
    KeepsEntries values (.object members) ↔ (filledKeys values members).Nodup := by
  have hlength : (fillMembers values members).length = members.length := by
    rw [fillMembers_eq_map, List.length_map]
  constructor
  · rintro ⟨kept, hfill, hkept, -⟩
    rw [fill_object] at hfill
    cases hfill
    rw [← keys_fillMembers]
    exact Fields.length_ofList_eq_length_iff.mp (hkept.trans hlength.symm)
  · intro hapart
    rw [← keys_fillMembers] at hapart
    refine ⟨_, fill_object members, ?_, fun key value hmem => ?_⟩
    · rw [Fields.length_ofList_eq_length_iff.mpr hapart, hlength]
    · have hfilled : (fillText values key, fill values value) ∈ fillMembers values members := by
        rw [fillMembers_eq_map]
        exact List.mem_map.mpr ⟨(key, value), hmem, rfl⟩
      refine Fields.mem_of_get?_eq_some ?_
      rw [Fields.get?_ofList_of_nodup hapart]
      exact Fields.get?_eq_some_of_mem hapart hfilled

/-- A part of a document loses nothing unless it is an object whose keys fall together. -/
theorem keepsEntries_iff : KeepsEntries values part ↔
    ∀ members, part = .object members → (filledKeys values members).Nodup := by
  cases part with
  | array items => exact ⟨nofun, fun _ => keepsEntries_array items⟩
  | object members =>
    rw [keepsEntries_object_iff]
    refine ⟨?_, fun h => h members rfl⟩
    rintro hapart _ ⟨⟩
    exact hapart
  | _ => exact ⟨nofun, fun _ => by simp only [KeepsEntries]⟩

/-- No two keys of one object in a document become the same text. -/
def KeysStayApart (values : Fields String) (document : Json) : Prop :=
  ∀ path members, document.part? path = some (.object members) → (filledKeys values members).Nodup

theorem keepsEntries_parts_iff :
    (∀ path part, document.part? path = some part → KeepsEntries values part) ↔
      KeysStayApart values document := by
  simp only [keepsEntries_iff]
  constructor
  · exact fun h path members hpart => h path _ hpart members rfl
  · rintro h path _ hpart members rfl
    exact h path members hpart

/-! ## Where parts are found -/

/-- A step with values in place of references. -/
def fillStep (values : Fields String) : Step → Step
  | .item index => .item index
  | .member key => .member (fillText values key)

/-- What a step leads to is found behind the filled step. -/
theorem child?_fill {step : Step} {child : Json} (hkeeps : KeepsEntries values document)
    (h : document.child? step = some child) :
    (fill values document).child? (fillStep values step) = some (fill values child) := by
  unfold child? at h
  split at h
  · next items index =>
    rw [fill_array, fillStep, child?, List.getElem?_map, h, Option.map_some]
  · next members key =>
    obtain ⟨kept, hfill, -, hkept⟩ := hkeeps
    have hmem := hkept key child (Fields.mem_of_get?_eq_some h)
    rw [fill_object] at hfill
    cases hfill
    rw [fill_object, fillStep, child?]
    exact (Fields.isOrdered_ofList _).get?_eq_some_iff.mpr hmem
  · cases h

/-- **Every part is found again** in a document that loses nothing. -/
theorem part?_fill
    (hkeeps : ∀ path part, document.part? path = some part → KeepsEntries values part)
    (h : document.part? path = some part) :
    (fill values document).part? (path.map (fillStep values)) = some (fill values part) := by
  -- Induction on the path: the parts below a child are parts of the document.
  induction path generalizing document with
  | nil =>
    cases h
    rfl
  | cons step path ih =>
    obtain ⟨child, hchild, hpart⟩ := Option.bind_eq_some_iff.mp h
    have hbelow (inner : List Step) (part : Json) (hinner : child.part? inner = some part) :
        KeepsEntries values part := by
      refine hkeeps (step :: inner) part ?_
      rw [part?, hchild, Option.bind_some, hinner]
    rw [List.map_cons, part?, child?_fill (hkeeps [] document rfl) hchild, Option.bind_some]
    exact ih hbelow hpart

/-- **What becomes of the entries of a document.** An array keeps its length and order, and an
object has, under each key, the last of its entries whose key becomes that one, and nothing else. So
the parts of a document lose no entry just when the keys of no object in it fall together, and then
each part is found again, at the path to it with values in place of references. -/
theorem fill_entries (values : Fields String) :
    (∀ items, fill values (.array items) = .array (items.map (fill values))) ∧
    (∀ members, ∃ kept, fill values (.object members) = .object kept ∧ Fields.IsOrdered kept ∧
      ∀ key, Fields.get? kept key =
        ((members.filter fun member => fillText values member.1 = key).getLast?).map
          fun member => fill values member.2) ∧
    ∀ document,
      ((∀ path part, document.part? path = some part → KeepsEntries values part) ↔
        KeysStayApart values document) ∧
      (KeysStayApart values document → ∀ path part, document.part? path = some part →
        (fill values document).part? (path.map (fillStep values)) = some (fill values part)) := by
  refine ⟨fill_array, fun members => ?_, fun document => ⟨keepsEntries_parts_iff, ?_⟩⟩
  · exact ⟨_, fill_object members, Fields.isOrdered_ofList _, get?_ofList_fillMembers members⟩
  · exact fun hapart path part => part?_fill (keepsEntries_parts_iff.mpr hapart)

/-- Two keys that become one text: the first of the two entries is lost. -/
theorem not_keepsEntries_of_equal_keys :
    let values : Fields String := [("A", "x"), ("B", "x")]
    let document : Json := .object [("${A}", .int 1), ("${B}", .int 2)]
    fill values document = .object [("x", .int 2)] ∧ ¬ KeepsEntries values document := by
  have hfill : fill [("A", "x"), ("B", "x")] (.object [("${A}", .int 1), ("${B}", .int 2)]) =
      .object [("x", .int 2)] := by
    decide +kernel
  refine ⟨hfill, ?_⟩
  rintro ⟨kept, hkept, hlength, -⟩
  rw [hfill] at hkept
  cases hkept
  simp at hlength

end Reference

end VmProvisioning
