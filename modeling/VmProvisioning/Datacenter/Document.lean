import VmProvisioning.Datacenter
import VmProvisioning.Number.Shortest

/-!
# Datacenters from documents

A datacenter is written down as a document with metadata and a specification. Texts may be given
as any scalar there, and records only as mappings.

## Main definitions

* `Datacenter.ofDocument?`: the datacenter of a document
-/

namespace VmProvisioning

namespace Datacenter

/-- The text of a scalar. -/
def scalarText? : Json → Option String
  | .null => some "null"
  | .bool value => some (if value then "true" else "false")
  | .int value => some (toString value)
  | .double value => some value.text
  | .text value => some value
  | _ => none

/-- Read a record that is a mapping. -/
def mapping? {α : Type} (read : Json → Option α) (value : Json) : Option α :=
  if value.isObject then read value else none

/-- Read a specification. -/
def specOfDocument? : Json → Option DatacenterSpec :=
  mapping? <| Json.record? do
    return {
      organization := ← Json.required "organization" scalarText?
      workloadNamespace := ← Json.required "workloadNamespace" scalarText?
      quota := ← Json.required "quota" (mapping? Ceilings.ofJson?)
      limitRange := ← Json.optional "limitRange" (mapping? Bounds.ofJson?) }

/-- Read metadata: the name of the object, or the beginning of a name to be made up. -/
def nameOfDocument? : Json → Option String :=
  mapping? <| Json.record? do
    let name ← Json.optional "name" scalarText?
    let generateName ← Json.optional "generateName" scalarText?
    return (name.or generateName).getD ""

/-- **The datacenter of a document.** -/
def ofDocument? : Json → Option Datacenter :=
  mapping? <| Json.record? do
    return {
      id := ← Json.required "metadata" nameOfDocument?
      spec := ← Json.required "spec" specOfDocument? }

end Datacenter

end VmProvisioning
