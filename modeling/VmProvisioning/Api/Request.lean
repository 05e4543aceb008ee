import VmProvisioning.Kind
import VmProvisioning.Json.Basic

/-!
# Requests to the cluster's API

## Main definitions

* `Api.Request`: what the cluster is asked
* `Api.Request.method`, `path`, `query`, `body`, `contentType`: a request as it is sent
-/

namespace VmProvisioning.Api

/-- **A request** on the objects of a resource in a namespace. -/
inductive Request where
  /-- The version of the API server. -/
  | version
  /-- One object. -/
  | get (resource : Resource) (ns name : String)
  /-- All objects, or those that a selector of labels matches. -/
  | list (resource : Resource) (ns : String) (selector : Option String)
  /-- Create an object. -/
  | create (resource : Resource) (ns : String) (object : Json)
  /-- Change an object by a merge patch. -/
  | merge (resource : Resource) (ns name : String) (patch : Json)
  /-- Make the applied fields of an object as given, whoever owned them. -/
  | apply (resource : Resource) (ns name manager : String) (object : Json)
  /-- Delete an object, and what depends on it in the background when that is asked for. -/
  | delete (resource : Resource) (ns name : String) (inBackground : Bool)
deriving DecidableEq

namespace Request

/-- The method of a request. -/
def method : Request → String
  | version | get .. | list .. => "GET"
  | create .. => "POST"
  | merge .. | apply .. => "PATCH"
  | delete .. => "DELETE"

/-- The path of a request. -/
def path : Request → String
  | version => "/version"
  | get resource ns name | merge resource ns name _ | apply resource ns name _ _
  | delete resource ns name _ => resource.objectPath ns name
  | list resource ns _ | create resource ns _ => resource.collectionPath ns

/-- The parameters of the query of a request. -/
def query : Request → Fields String
  | list _ _ (some selector) => [("labelSelector", selector)]
  | apply _ _ _ manager _ => [("fieldManager", manager), ("force", "true")]
  | _ => []

/-- The body of a request. -/
def body : Request → Option Json
  | create _ _ object => some object
  | merge _ _ _ patch => some patch
  | apply _ _ _ _ object => some object
  | delete _ _ _ true => some (.ofTexts [("propagationPolicy", "Background")])
  | delete _ _ _ false => some (.object [])
  | _ => none

/-- The form of a patch. -/
def contentType : Request → Option String
  | merge .. => some "application/merge-patch+json"
  | apply .. => some "application/apply-patch+yaml"
  | _ => none

/-- Whether a character may not stand in a path. -/
def isForbidden (c : Char) : Bool :=
  c.toNat ≤ 0x20 || c == '<' || c == '>' || c.toNat == 0x60 || c.toNat == 0x7F

/-- The length of the longest name that a manager may have, in bytes. -/
def maxManagerLength : Nat :=
  128

/-- Whether a request can be sent: its path has only characters of paths, an object has a name, and
that of a manager is not too long. -/
def isSendable (request : Request) : Bool :=
  let isNamed :=
    match request with
    | get _ _ name | merge _ _ name _ | delete _ _ name _ => name != ""
    | apply _ _ name manager _ => name != "" && decide (manager.utf8ByteSize ≤ maxManagerLength)
    | _ => true
  isNamed && !request.path.toList.any isForbidden

end Request

end VmProvisioning.Api
