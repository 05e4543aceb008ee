import VmProvisioning.Json.Record

/-!
# Requests for machines

## Main definitions

* `DeployRequest`: what a caller asks for
-/

namespace VmProvisioning

/-- **A request for a machine** from a template. -/
structure DeployRequest where
  templateId : String
  /-- Any text; the id of the machine is the label made of it. -/
  machineName : String
  /-- Empty for the namespace of the datacenter. -/
  ns : String
  /-- The size of the root disk instead of the template's. -/
  diskSize : Option String
  datacenterId : String
deriving DecidableEq, Repr

namespace DeployRequest

/-- A request as a JSON value. -/
def toJson (request : DeployRequest) : Json :=
  .ofMembers ([("templateId", .text request.templateId), ("vmName", .text request.machineName),
    ("namespace", .text request.ns)] ++
    Json.ofOptional "diskSize" .text request.diskSize ++
    [("vdcId", .text request.datacenterId)])

/-- Read a request. -/
def ofJson? : Json → Option DeployRequest :=
  Json.record? do
    return {
      templateId := ← Json.required "templateId" Json.text?
      machineName := ← Json.required "vmName" Json.text?
      ns := ← Json.required "namespace" Json.text?
      diskSize := ← Json.optional "diskSize" Json.text?
      datacenterId := ← Json.required "vdcId" Json.text? }

end DeployRequest

end VmProvisioning
