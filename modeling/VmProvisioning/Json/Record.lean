import VmProvisioning.Json.Basic

/-!
# Records as JSON values

A record is written as an object with one member for each field. It is read from an object, whose
other members are ignored, or from an array of the fields in the order of their declaration, whose
last items may be missing when their fields have a default.

## Main definitions

* `Json.Row`, `Json.RecordReader`: reading the fields of a record one after the other
* `Json.record?`: reading a whole record
* `Json.required`, `Json.defaulted`, `Json.optional`: the kinds of fields
* `Json.ofOptional`: writing a field that is left out when it has no value
-/

namespace VmProvisioning

namespace Json

/-- What the fields of a record are read from: members by name or items by position. -/
inductive Row where
  | named (members : Fields Json)
  | positional (items : List Json)

/-- A reader of fields, which takes the items it reads from a positional row. -/
abbrev RecordReader := StateT Row Option

/-- A field with the given name: `absent` is its value when it is missing, if it may be. -/
def field {α : Type} (name : String) (read : Json → Option α) (absent : Option α) :
    RecordReader α := fun row =>
  match row with
  | .named members =>
    match Fields.get? members name with
    | some value => (read value).map fun value => (value, row)
    | none => absent.map fun value => (value, row)
  | .positional (item :: rest) => (read item).map fun value => (value, .positional rest)
  | .positional [] => absent.map fun value => (value, row)

/-- A field that may not be missing. -/
def required {α : Type} (name : String) (read : Json → Option α) : RecordReader α :=
  field name read none

/-- A field with a value for when it is missing. -/
def defaulted {α : Type} (name : String) (read : Json → Option α) (value : α) : RecordReader α :=
  field name read (some value)

/-- A field without a value when it is missing or `null`. -/
def optional {α : Type} (name : String) (read : Json → Option α) : RecordReader (Option α) :=
  field name (fun value => if value.isNull then some none else (read value).map some) (some none)

/-- **Read a record** from an object or from an array that has no items left over. -/
def record? {α : Type} (reader : RecordReader α) : Json → Option α
  | object members => (reader.run (.named members)).map Prod.fst
  | array items =>
    match reader.run (.positional items) with
    | some (value, .positional []) => some value
    | _ => none
  | _ => none

/-- An integer without sign in a number of bits. -/
def uint? (bits : Nat) : Json → Option Nat
  | int value => if 0 ≤ value ∧ value < Nat.pow 2 bits then some value.toNat else none
  | _ => none

/-- An integer of 32 bits without sign. -/
def uint32? (value : Json) : Option UInt32 :=
  (value.uint? 32).map UInt32.ofNat

/-- All items of an array. -/
def list? {α : Type} (read : Json → Option α) : Json → Option (List α)
  | array items => items.mapM read
  | _ => none

/-- An object whose members are all texts. -/
def textFields? : Json → Option (Fields String)
  | object members => members.mapM fun (key, value) => value.text?.map fun text => (key, text)
  | _ => none

/-- Any value. -/
def any? (value : Json) : Option Json :=
  some value

/-- The member of a field that is left out when it has no value. -/
def ofOptional {α : Type} (name : String) (write : α → Json) (value : Option α) :
    List (String × Json) :=
  match value with
  | some value => [(name, write value)]
  | none => []

/-- A whole number of 32 bits. -/
def ofUInt32 (value : UInt32) : Json :=
  int value.toNat

end Json

end VmProvisioning
