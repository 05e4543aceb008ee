/-!
# Ordered fields

Values under text keys, kept in the order of the keys. JSON objects, labels, annotations,
parameters and the registry of machines are fields.

## Main definitions

* `Fields`: the entries of a finite map with text keys
* `Fields.get?`, `Fields.insert`, `Fields.erase`, `Fields.ofList`: its operations
* `Fields.IsOrdered`: the invariant they keep, strictly increasing keys
-/

namespace VmProvisioning

/-- **Fields**: values under text keys. The operations keep the keys strictly increasing. -/
abbrev Fields (α : Type) := List (String × α)

namespace Fields

variable {α β : Type}

/-- The keys in order. -/
def keys (fields : Fields α) : List String :=
  fields.map Prod.fst

/-- The keys are strictly increasing. -/
def IsOrdered (fields : Fields α) : Prop :=
  (keys fields).Pairwise (· < ·)

/-- The value under a key. -/
def get? : Fields α → String → Option α
  | [], _ => none
  | (k, v) :: rest, key => if k = key then some v else get? rest key

/-- Put a value under a key, in place of the value that is there. -/
def insert : Fields α → String → α → Fields α
  | [], key, value => [(key, value)]
  | (k, v) :: rest, key, value =>
    if k = key then (key, value) :: rest
    else if key < k then (key, value) :: (k, v) :: rest
    else (k, v) :: insert rest key value

/-- Remove a key and its value. -/
def erase : Fields α → String → Fields α
  | [], _ => []
  | (k, v) :: rest, key => if k = key then rest else (k, v) :: erase rest key

/-- Whether there is a value under a key. -/
def contains (fields : Fields α) (key : String) : Bool :=
  (get? fields key).isSome

/-- The fields of a list of entries; of several entries under one key the last one counts. -/
def ofList (entries : List (String × α)) : Fields α :=
  entries.foldl (fun fields (key, value) => insert fields key value) []

/-- Insert the entries of `others` under the keys that have no value yet. -/
def insertMissing (fields others : Fields α) : Fields α :=
  others.foldl (fun fields (key, value) =>
    if contains fields key then fields else insert fields key value) fields

theorem get?_insert (fields : Fields α) (key other : String) (value : α) :
    get? (insert fields key value) other =
      if key = other then some value else get? fields other := by
  induction fields with
  | nil => rfl
  | cons entry rest ih =>
    obtain ⟨k, v⟩ := entry
    simp only [insert]
    split
    · next h => subst h; simp only [get?]; split <;> rfl
    · next h =>
      split
      · simp only [get?]
      · simp only [get?, ih]
        split
        · next hk =>
          subst hk
          split
          · next hkey => exact absurd hkey.symm h
          · rfl
        · rfl

end Fields

end VmProvisioning
