import VmProvisioning.Api.Schema
import VmProvisioning.Json.Record

/-!
# Objects of the cluster

An object has a kind, an API version and metadata of a fixed type; everything else in it is kept
as it is.

## Main definitions

* `Api.object?`: the normal form of an object
* `Api.objects?`: the objects of a list
* `Api.deletion?`: the answer to a deletion
-/

namespace VmProvisioning.Api

/-- The normal form of metadata, which are empty when they are missing. -/
def metadata? (type : Schema) (members : Fields Json) : Option Json :=
  type.read? ((Fields.get? members "metadata").getD (.object []))

/-- Whether kind and API version of an object are both texts. -/
def isTyped (object : Json) : Bool :=
  (object.textAt? ["apiVersion"]).isSome && (object.textAt? ["kind"]).isSome

/-- **The normal form of an object.** Kind and API version are kept only together. -/
def object? (value : Json) : Option Json :=
  match value with
  | .object members =>
    let typed :=
      if isTyped value then members else Fields.erase (Fields.erase members "apiVersion") "kind"
    (metadata? .metadata members).map fun metadata =>
      .object (Fields.insert typed "metadata" metadata)
  | _ => none

/-- The objects of a list; `null` in their place is an empty list. -/
def objects? : Json → Option (List Json)
  | .object members => do
    let _ ← metadata? .listMetadata members
    match ← Fields.get? members "items" with
    | .null => return []
    | items => Json.list? object? items
  | _ => none

/-- A cause of a failed request. -/
def statusCause? : Json → Option Unit :=
  Json.record? do
    let _ ← Json.defaulted "reason" Json.text? ""
    let _ ← Json.defaulted "message" Json.text? ""
    let _ ← Json.defaulted "field" Json.text? ""

/-- The details of a status. -/
def statusDetails? : Json → Option Unit :=
  Json.record? do
    let _ ← Json.defaulted "name" Json.text? ""
    let _ ← Json.defaulted "group" Json.text? ""
    let _ ← Json.defaulted "kind" Json.text? ""
    let _ ← Json.defaulted "uid" Json.text? ""
    let _ ← Json.defaulted "causes" (Json.list? statusCause?) []
    let _ ← Json.defaulted "retryAfterSeconds" Json.uint32? 0

/-- The outcome that a status names. -/
def statusOutcome? (value : Json) : Option Unit :=
  if value == .text "Success" || value == .text "Failure" then some () else none

/-- A status in place of an object. -/
def status? : Json → Option Unit :=
  Json.record? do
    let _ ← Json.optional "status" statusOutcome?
    let _ ← Json.defaulted "message" Json.text? ""
    let _ ← Json.defaulted "reason" Json.text? ""
    let _ ← Json.optional "details" statusDetails?
    let _ ← Json.defaulted "code" (Json.uint? 16) 0

/-- **The answer to a deletion**: a status, or the object of the given form as it was. -/
def deletion? (form : Json → Option Json) (value : Json) : Option Unit :=
  if value.textAt? ["kind"] = some "Status" then status? value else (form value).map fun _ => ()

end VmProvisioning.Api
