import Mathlib.Data.Option.Basic
import VmProvisioning.Proofs.Json.Record

/-!
# Records read by name or by position

A record is read from an object by the names of its fields, or from an array by their positions.
In both every field has its place, and what a reader of fields makes of a record is what it makes of
each place.

## Main definitions

* `Json.row?`: the fields of an object or an array
* `Json.Row.at?`: what stands in the place of a field
* `Json.Row.drop`: the fields behind a number of fields

## Main results

* `field_bind_run_drop_iff`: a field is read from its place, and the others from behind it
* `record?_eq_some_iff`: a record is read from its fields, none of which is left over
-/

namespace VmProvisioning.Json

variable {α β : Type} {row last : Row} {value : α} {result : β} {position : Nat} {name : String}
  {read : Json → Option α} {absent : Option α}

/-- **The fields that a record is read from.** -/
def row? : Json → Option Row
  | object members => some (.named members)
  | array items => some (.positional items)
  | _ => none

namespace Row

/-- **What stands in the place of a field**: under its name, or at its position. -/
def at? : Row → (position : Nat) → (name : String) → Option Json
  | named members, _, name => Fields.get? members name
  | positional items, position, _ => items[position]?

/-- The fields behind a number of fields. Those with names stay together. -/
def drop (count : Nat) : Row → Row
  | named members => .named members
  | positional items => .positional (items.drop count)

/-- A row of at most a number of fields, or of fields with names. -/
def IsWithin (count : Nat) : Row → Prop
  | named _ => True
  | positional items => items.length ≤ count

instance (count : Nat) : (row : Row) → Decidable (row.IsWithin count)
  | named _ => inferInstanceAs (Decidable True)
  | positional items => inferInstanceAs (Decidable (items.length ≤ count))

theorem drop_zero (row : Row) : row.drop 0 = row := by
  cases row with
  | named members => rfl
  | positional items => rfl

end Row

/-! ## Reading -/

/-- **A field is read from its place**, and nothing else of the row is. -/
theorem field_drop (name : String) (read : Json → Option α) (absent : Option α) (row : Row)
    (position : Nat) :
    field name read absent (row.drop position) =
      ((row.at? position name).elim absent read).map fun value =>
        (value, row.drop (position + 1)) := by
  cases row with
  | named members =>
    simp only [Row.drop, Row.at?, field]
    cases Fields.get? members name with
    | none => rfl
    | some found => rfl
  | positional items =>
    simp only [Row.drop, Row.at?]
    by_cases hlength : position < items.length
    · rw [List.drop_eq_getElem_cons hlength, List.getElem?_eq_getElem hlength]
      rfl
    · have hnone : items[position]? = none := List.getElem?_eq_none (Nat.le_of_not_lt hlength)
      have hend : items.drop position = [] := List.drop_eq_nil_of_le (Nat.le_of_not_lt hlength)
      have hend' : items.drop (position + 1) = [] :=
        List.drop_eq_nil_of_le (Nat.le_succ_of_le (Nat.le_of_not_lt hlength))
      rw [hnone, hend, hend']
      rfl

/-- **A field that is read before others.** -/
theorem field_bind_run_drop_iff {next : α → RecordReader β} :
    ((field name read absent >>= next).run (row.drop position)) = some (result, last) ↔
      ∃ value, (row.at? position name).elim absent read = some value ∧
        (next value).run (row.drop (position + 1)) = some (result, last) := by
  have hfield : (field name read absent).run (row.drop position) = _ :=
    field_drop name read absent row position
  rw [StateT.run_bind, hfield]
  cases (row.at? position name).elim absent read with
  | none => simp
  | some value => simp

/-- **A record is read from the places of its fields.** In an array nothing may stand behind
them. -/
theorem record?_eq_some_iff {reader : RecordReader α} {count : Nat} {IsReadAs : Row → α → Prop}
    (hreader : ∀ row value last, reader.run (row.drop 0) = some (value, last) ↔
      IsReadAs row value ∧ last = row.drop count) {json : Json} :
    record? reader json = some value ↔
      ∃ row, json.row? = some row ∧ row.IsWithin count ∧ IsReadAs row value := by
  cases json with
  | object members =>
    have hrun := hreader (.named members) value
    rw [Row.drop_zero] at hrun
    simp only [record?, row?, Option.some.injEq, exists_eq_left']
    constructor
    · intro h
      obtain ⟨⟨found, last⟩, hfound, rfl⟩ := Option.map_eq_some_iff.mp h
      exact ⟨trivial, ((hrun last).mp hfound).1⟩
    · rintro ⟨-, hvalue⟩
      rw [(hrun _).mpr ⟨hvalue, rfl⟩]
      rfl
  | array items =>
    have hrun := hreader (.positional items) value
    rw [Row.drop_zero] at hrun
    simp only [record?, row?, Option.some.injEq, exists_eq_left']
    constructor
    · intro h
      split at h
      · next found hfound =>
        cases h
        obtain ⟨hvalue, hlast⟩ := (hrun _).mp hfound
        have hend : [] = items.drop count := by injection hlast
        exact ⟨List.drop_eq_nil_iff.mp hend.symm, hvalue⟩
      · cases h
    · rintro ⟨hwithin, hvalue⟩
      have hend : items.drop count = [] := List.drop_eq_nil_of_le hwithin
      rw [(hrun _).mpr ⟨hvalue, rfl⟩, Row.drop, hend]
  | _ => simp [record?, row?]

end VmProvisioning.Json
