import VmProvisioning.Json.Basic
import VmProvisioning.Timestamp

/-!
# Schemas of typed objects

Some parts of the cluster's objects have a fixed type. They are read leniently: members that the
type does not have are dropped, and so are members that are `null`; a value of another type makes
the whole object unreadable.

## Main definitions

* `Schema`: the type of a value
* `Schema.read?`: the normal form of a value of a type
* `Schema.metadata`, `Schema.limitRange`, `Schema.resourceQuota`: the types in use
-/

namespace VmProvisioning

/-- **The type of a value.** A member of a record has a name, a value for when it is missing, if
it is never left out, and a type. -/
inductive Schema where
  | any
  | text
  | bool
  | integer (bits : Nat)
  | time
  | constant (value : String)
  | texts
  | list (item : Schema)
  | record (members : List (String × Option Json × Schema))

namespace Schema

/-- An integer with a sign in a number of bits. -/
def integer? (bits : Nat) : Json → Option Json
  | .int value =>
    if -(Nat.pow 2 (bits - 1) : Int) ≤ value ∧ value < Nat.pow 2 (bits - 1) then some (.int value)
    else none
  | _ => none

/-- A timestamp in its normal form. -/
def time? (value : Json) : Option Json :=
  (value.text?.bind Timestamp.normalize?).map .text

/-- An object of texts. -/
def texts? : Json → Option Json
  | .object members => if members.all fun (_, value) => value.text?.isSome then
      some (.object members) else none
  | _ => none

mutual

/-- **The normal form of a value of a type.** -/
def read? : Schema → Json → Option Json
  | any, value => some value
  | text, value => value.text?.map .text
  | bool, value => value.bool?.map .bool
  | integer bits, value => integer? bits value
  | time, value => time? value
  | constant expected, value => if value == .text expected then some value else none
  | texts, value => texts? value
  | list item, .array items => (items.mapM fun value => item.read? value).map .array
  | list _, _ => none
  | record types, .object members => (readMembers? types members).map .ofMembers
  | record _, _ => none

/-- The members of a record that have a value. -/
def readMembers? : List (String × Option Json × Schema) → Fields Json →
    Option (List (String × Json))
  | [], _ => some []
  | (name, absent, type) :: types, members => do
    let rest ← readMembers? types members
    match (Fields.get? members name).filter (!·.isNull) with
    | some value => return (name, ← type.read? value) :: rest
    | none => return (absent.map fun value => (name, value)).toList ++ rest

end

/-- A member that is left out when it is missing. -/
def optional (name : String) (type : Schema) : String × Option Json × Schema :=
  (name, none, type)

/-- A text that is empty when it is missing. -/
def plain (name : String) : String × Option Json × Schema :=
  (name, some (.text ""), text)

/-- An object that another one belongs to. -/
def ownerReference : Schema :=
  record [plain "apiVersion", optional "blockOwnerDeletion" bool, optional "controller" bool,
    plain "kind", plain "name", plain "uid"]

/-- The fields of an object that a manager owns. -/
def managedFields : Schema :=
  record [optional "apiVersion" text, optional "fieldsType" text, optional "fieldsV1" any,
    optional "manager" text, optional "operation" text, optional "subresource" text,
    optional "time" time]

/-- The metadata of an object. -/
def metadata : Schema :=
  record [optional "annotations" texts, optional "creationTimestamp" time,
    optional "deletionGracePeriodSeconds" (integer 64), optional "deletionTimestamp" time,
    optional "finalizers" (list text), optional "generateName" text,
    optional "generation" (integer 64), optional "labels" texts,
    optional "managedFields" (list managedFields), optional "name" text, optional "namespace" text,
    optional "ownerReferences" (list ownerReference), optional "resourceVersion" text,
    optional "selfLink" text, optional "uid" text]

/-- The metadata of a list of objects. -/
def listMetadata : Schema :=
  record [optional "continue" text, optional "remainingItemCount" (integer 64),
    optional "resourceVersion" text, optional "selfLink" text]

/-- A limit range. -/
def limitRange : Schema :=
  record [optional "apiVersion" (constant "v1"), optional "kind" (constant "LimitRange"),
    optional "metadata" metadata,
    optional "spec" (record [optional "limits" (list (record [optional "default" texts,
      optional "defaultRequest" texts, optional "max" texts, optional "maxLimitRequestRatio" texts,
      optional "min" texts, plain "type"]))])]

/-- A resource quota. -/
def resourceQuota : Schema :=
  record [optional "apiVersion" (constant "v1"), optional "kind" (constant "ResourceQuota"),
    optional "metadata" metadata,
    optional "spec" (record [optional "hard" texts,
      optional "scopeSelector" (record [optional "matchExpressions" (list (record [plain "operator",
        plain "scopeName", optional "values" (list text)]))]),
      optional "scopes" (list text)]),
    optional "status" (record [optional "hard" texts, optional "used" texts])]

/-- The version of an API server. -/
def serverVersion : Schema :=
  record (["buildDate", "compiler", "gitCommit", "gitTreeState", "gitVersion", "goVersion", "major",
    "minor", "platform"].map plain)

end Schema

end VmProvisioning
