import VmProvisioning.Json.Basic

/-!
# Merge patches

A merge patch describes a change of a JSON value by a value of the same shape: objects are merged
member by member, `null` removes a member, and everything else takes the place of what is there.

## Main definitions

* `Json.merge`: a value after a merge patch
-/

namespace VmProvisioning.Json

/-- The members of an object; any other value has none. -/
def members : Json → Fields Json
  | object members => members
  | _ => []

mutual

/-- **A value after a merge patch.** -/
def merge (target : Json) : (patch : Json) → Json
  | object entries => object (mergeMembers target.members entries)
  | patch => patch

/-- Members after the entries of a merge patch. -/
def mergeMembers (members : Fields Json) : (entries : List (String × Json)) → Fields Json
  | [] => members
  | (key, null) :: rest => mergeMembers (Fields.erase members key) rest
  | (key, entry) :: rest =>
    let present := (Fields.get? members key).getD null
    mergeMembers (Fields.insert members key (merge present entry)) rest

end

end VmProvisioning.Json
