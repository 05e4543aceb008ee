import VmProvisioning.Cluster.Machines
import VmProvisioning.Proofs.Api.Exchange
import VmProvisioning.Proofs.Cluster.Definition
import VmProvisioning.Proofs.Deployment.Course
import VmProvisioning.Proofs.Deployment.Manifest
import VmProvisioning.Proofs.Quota.Admission

/-!
# The disk of a deployed machine

A deployment checks the disk that the request or the template's description asks for. The disk that
the cluster creates is that of the template's own machine object, when there is one, and that of
the machine otherwise. The two need not be the same.

## Main definitions

* `FitsDisk`: the disk that a machine object asks for stays within a ceiling

## Main results

* `Course.admits_of_create`: only admitted machines are created
* `fitsDisk_created_iff`: when the created disk stays within the ceiling
-/

namespace VmProvisioning

open Interaction

/-! ## What is created -/

variable {σ : Type} {source : RandomSource σ} {state : σ} {request : DeployRequest}
  {datacenter other : Datacenter} {trace : List DeployEvent} {result : Except Failure Deployed}
  {machine : Machine} {template : Template} {base : Option Json}

/-- **Only what is admitted is created**: its machine, in the datacenter of the deployment. -/
theorem Course.admits_of_create {ending : Ending}
    (h : Course source state request datacenter ending trace result)
    (hmem : .call (.create machine other template base) ∈ trace.map Sigma.fst) :
    ∃ raw materialized, Admits source state request datacenter raw template materialized ∧
      machine = Plan.requestedMachine template request ∧ other = datacenter ∧
      base = materialized.base := by
  cases h with
  | otherDatacenter => cases hmem
  | otherNamespace => cases hmem
  | missing => simp at hmem
  | rejected => simp [DeployEvent.fetched] at hmem
  | notCreated htarget hadmits =>
    obtain ⟨rfl, rfl, rfl, rfl⟩ := by
      simpa [DeployEvent.fetched, DeployEvent.created] using hmem
    exact ⟨_, _, hadmits, rfl, rfl, rfl⟩
  | abandoned _ htarget hadmits =>
    obtain ⟨rfl, rfl, rfl, rfl⟩ := by
      simpa [DeployEvent.fetched, DeployEvent.created, DeployEvent.accepted,
        DeployEvent.rejected, DeployEvent.deleted] using hmem
    exact ⟨_, _, hadmits, rfl, rfl, rfl⟩
  | deployed htarget hadmits =>
    obtain ⟨rfl, rfl, rfl, rfl⟩ := by
      simpa [DeployEvent.fetched, DeployEvent.created, DeployEvent.accepted] using hmem
    exact ⟨_, _, hadmits, rfl, rfl, rfl⟩

theorem Admits.isObject_of_mem_base {raw : Json} {materialized : Materialized}
    (h : Admits source state request datacenter raw template materialized) :
    ∀ object ∈ materialized.base, object.isObject := by
  intro object hobject
  obtain ⟨manifest, hmanifest, rfl⟩ := Option.map_eq_some_iff.mp hobject
  obtain ⟨place, origin, horigin⟩ := Materialized.exists_of_mem_manifests h.materialized_eq
    (List.mem_of_find?_eq_some hmanifest)
  exact Manifest.isObject_of_ofObject horigin

namespace Cluster

variable {settings : ClusterSettings} {object : Json}

/-- Creating a machine with a valid id and a readable object is a single request. -/
theorem create_eq_exchangeOr (hid : DnsLabel.validate machine.id = .ok ())
    (hobject : Api.object? (Definition.ofBase machine datacenter template base) = some object) :
    create settings machine datacenter template base =
      Api.exchangeOr
        (concern settings "create VirtualMachine" machines datacenter.workloadNamespace machine.id)
        (.create machines datacenter.workloadNamespace object)
        (fun value => (Api.object? value).map fun _ => ())
        fun trouble =>
          if trouble.isConflict then
            some (.error (.conflictFor .alreadyExists datacenter.workloadNamespace machine.id))
          else none := by
  simp only [create, hid, hobject, Operation.ofExcept_ok_bind]

/-- Creating a machine posts the normal form of its object. -/
theorem object?_of_create {resource : Resource} {ns : String}
    {exchange : List (Event Api.Request fun _ => Api.Answer)} {outcome : Except Failure Unit}
    (hrun : Runs (create settings machine datacenter template base).run exchange outcome)
    (hmem : .create resource ns object ∈ exchange.map Sigma.fst) :
    Api.object? (Definition.ofBase machine datacenter template base) = some object := by
  -- Without a valid id or a readable object there is no request.
  cases hid : DnsLabel.validate machine.id with
  | error failure =>
    simp only [create, hid, Operation.ofExcept_error_bind, Operation.runs_throw_iff] at hrun
    simp [hrun.1] at hmem
  | ok =>
    cases hobject : Api.object? (Definition.ofBase machine datacenter template base) with
    | none =>
      simp only [create, hid, hobject, Operation.ofExcept_ok_bind, Operation.runs_throw_iff] at hrun
      simp [hrun.1] at hmem
    | some posted =>
      rw [create_eq_exchangeOr hid hobject, Api.runs_exchangeOr_iff] at hrun
      obtain ⟨-, answer, rfl, -⟩ | ⟨-, rfl, -⟩ := hrun
      · simp only [List.map_cons, List.map_nil, List.mem_singleton] at hmem
        cases hmem
        rfl
      · cases hmem

end Cluster

/-! ## The created disk -/

/-- **The disk that a machine object asks for stays within a ceiling** in GiB, when it is a
quantity. -/
def FitsDisk (ceiling : UInt32) (object : Json) : Prop :=
  ∀ size bytes, Definition.requestedDisk? object = some size →
    Quantity.bytes size = .ok bytes → bytes ≤ ceiling.toNat * Quantity.gibibyte

/-- The disk that was checked stays within the ceiling. -/
theorem Admits.bytes_diskSize_le {raw : Json} {materialized : Materialized}
    (h : Admits source state request datacenter raw template materialized) :
    ∃ bytes, Quantity.bytes (Plan.requestedMachine template request).diskSize = .ok bytes ∧
      (0 < datacenter.spec.quota.storageGi →
        bytes ≤ datacenter.spec.quota.storageGi.toNat * Quantity.gibibyte) :=
  Dimension.checkCeiling_eq_ok_iff.mp (Datacenter.checkCeilings_eq_ok_iff.mp h.ceilings).2.2

theorem Quantity.ne_empty_of_bytes {text : String} {bytes : Nat}
    (h : Quantity.bytes text = .ok bytes) : text ≠ "" := by
  rintro rfl
  cases h

variable {settings : ClusterSettings} {resource : Resource} {ns : String} {object : Json}
  {exchange : List (Event Api.Request fun _ => Api.Answer)} {outcome : Except Failure Unit}

/-- **The created disk** is that of the base, and without a base that of the machine. -/
theorem Admits.requestedDisk?_created {raw : Json} {materialized : Materialized}
    (h : Admits source state request datacenter raw template materialized)
    (hcreate : Runs (Cluster.create settings (Plan.requestedMachine template request) datacenter
      template materialized.base).run exchange outcome)
    (hpost : .create resource ns object ∈ exchange.map Sigma.fst) :
    Definition.requestedDisk? object = materialized.base.elim
      (some (Plan.requestedMachine template request).diskSize) Definition.requestedDisk? := by
  obtain ⟨bytes, hbytes, -⟩ := h.bytes_diskSize_le
  rw [Definition.requestedDisk?_object? (Cluster.object?_of_create hcreate hpost),
    Definition.requestedDisk?_ofBase (Quantity.ne_empty_of_bytes hbytes) h.isObject_of_mem_base]

/-- **The created disk stays within the ceiling exactly if that of the base does.** A deployment
that creates a machine has checked the disk of the machine, and this is the disk that is created
when the template has no machine object of its own. -/
theorem fitsDisk_created_iff
    (hdeploy : Runs (deploy source state request datacenter).run trace result)
    (hcall : .call (.create machine other template base) ∈ trace.map Sigma.fst)
    (hcreate : Runs (Cluster.create settings machine other template base).run exchange outcome)
    (hpost : .create resource ns object ∈ exchange.map Sigma.fst)
    (hceiling : 0 < datacenter.spec.quota.storageGi) :
    FitsDisk datacenter.spec.quota.storageGi object ↔
      ∀ machineObject ∈ base, FitsDisk datacenter.spec.quota.storageGi machineObject := by
  obtain ⟨ending, hcourse⟩ := Course.of_runs hdeploy
  obtain ⟨raw, materialized, hadmits, rfl, rfl, rfl⟩ := hcourse.admits_of_create hcall
  have hdisk := hadmits.requestedDisk?_created hcreate hpost
  -- Only without a base is the created disk the one that was checked.
  cases hbase : materialized.base with
  | none =>
    rw [hbase] at hdisk
    obtain ⟨bytes, hbytes, hle⟩ := hadmits.bytes_diskSize_le
    simp only [FitsDisk, hdisk, Option.elim_none]
    constructor
    · simp
    · rintro - size _ ⟨⟩ hsize
      rw [hbytes] at hsize
      cases hsize
      exact hle hceiling
  | some machineObject =>
    rw [hbase] at hdisk
    simp [FitsDisk, hdisk]

/-! ## A disk that is checked and another that is created -/

/-- An admitted machine is created, and its object is posted. -/
theorem Admits.exists_created {raw : Json} {materialized : Materialized} {object : Json}
    (h : Admits source state request datacenter raw template materialized)
    (htarget : request.IsFor datacenter)
    (hid : DnsLabel.validate (Plan.requestedMachine template request).id = .ok ())
    (hobject : Api.object? (Definition.ofBase (Plan.requestedMachine template request) datacenter
      template materialized.base) = some object)
    (hsendable :
      (Api.Request.create Cluster.machines datacenter.workloadNamespace object).isSendable)
    (settings : ClusterSettings) :
    ∃ trace result exchange outcome,
      Runs (deploy source state request datacenter).run trace result ∧
      .call (.create (Plan.requestedMachine template request) datacenter template
        materialized.base) ∈ trace.map Sigma.fst ∧
      Runs (Cluster.create settings (Plan.requestedMachine template request) datacenter template
        materialized.base).run exchange outcome ∧
      .create Cluster.machines datacenter.workloadNamespace object ∈ exchange.map Sigma.fst := by
  -- The request is made whatever the answer is, so a silent cluster will do.
  obtain ⟨outcome, hcreate⟩ : ∃ outcome, Runs (Cluster.create settings
      (Plan.requestedMachine template request) datacenter template materialized.base).run
      [⟨.create Cluster.machines datacenter.workloadNamespace object, .silent⟩] outcome := by
    rw [Cluster.create_eq_exchangeOr hid hobject]
    exact ⟨_, Api.runs_exchangeOr_iff.mpr (.inl ⟨hsendable, .silent, rfl, rfl⟩)⟩
  have hcourse : Course source state request datacenter .notCreated
      [DeployEvent.fetched request raw, DeployEvent.created request datacenter template
        materialized (.error .unreadable)] (.error .unreadable) :=
    .notCreated htarget h
  refine ⟨_, _, _, _, hcourse.runs, ?_, hcreate, ?_⟩
  · simp [DeployEvent.fetched, DeployEvent.created]
  · simp

/-- A machine object that asks for a disk of a fixed size. -/
def applianceObject (size : String) : Json :=
  .ofMembers [("apiVersion", .text Kind.machineApiVersion), ("kind", .text Kind.machine),
    ("metadata", .ofTexts [("name", "appliance")]),
    ("spec", .nest ["dataVolumeTemplates"] (.array [
      .nest ["spec", "storage", "resources", "requests", "storage"] (.text size)]))]

/-- A raw template with such a machine object. -/
def rawAppliance (size : String) : Json :=
  .ofMembers [("metadata", .ofTexts [("name", "appliance")]),
    ("objects", .array [applianceObject size])]

/-- The template. -/
def applianceTemplate (size : String) : Template :=
  { Template.new "appliance" with diskSize := size, objects := [applianceObject size] }

/-- A request for an appliance with a disk of 10 GiB. -/
def applianceRequest : DeployRequest :=
  ⟨"appliance", "appliance", "", some "10Gi", "acme"⟩

/-- A datacenter with a ceiling of 20 GiB for disks. -/
def smallDatacenter : Datacenter :=
  ⟨"acme", ⟨"acme", "acme-dev", ⟨0, 0, 20⟩, none⟩⟩

/-- What the template becomes. -/
def applianceMaterialized (size : String) : Materialized :=
  ⟨"appliance", [("DISK_SIZE", "10Gi"), ("NAME", "appliance"), ("NAMESPACE", "acme-dev")],
    [⟨Cluster.machines, "appliance", "acme-dev", Manifest.own "acme-dev"
      (Ownership.labels "appliance" "acme" "appliance") (applianceObject size)⟩]⟩

theorem admits_smallAppliance : Admits Congruential.source 0 applianceRequest smallDatacenter
    (rawAppliance "10Gi") (applianceTemplate "10Gi") (applianceMaterialized "10Gi") :=
  ⟨by decide +kernel, by decide +kernel, by decide +kernel⟩

/-- The ceiling does not see the disk of the template. -/
theorem admits_largeAppliance : Admits Congruential.source 0 applianceRequest smallDatacenter
    (rawAppliance "40Gi") (applianceTemplate "40Gi") (applianceMaterialized "40Gi") :=
  ⟨by decide +kernel, by decide +kernel, by decide +kernel⟩

theorem isSendable_smallDatacenter (object : Json) :
    (Api.Request.create Cluster.machines smallDatacenter.workloadNamespace object).isSendable := by
  rw [Api.isSendable_create]
  decide +kernel

/-- An appliance that is admitted is created with an object of its own. -/
theorem exists_created_appliance {size : String}
    (h : Admits Congruential.source 0 applianceRequest smallDatacenter (rawAppliance size)
      (applianceTemplate size) (applianceMaterialized size))
    (hobject : (Api.object? (Definition.ofBase
      (Plan.requestedMachine (applianceTemplate size) applianceRequest) smallDatacenter
      (applianceTemplate size) (applianceMaterialized size).base)).isSome) :
    ∃ trace result exchange outcome object,
      Runs (deploy Congruential.source 0 applianceRequest smallDatacenter).run trace result ∧
      .call (.create (Plan.requestedMachine (applianceTemplate size) applianceRequest)
        smallDatacenter (applianceTemplate size) (applianceMaterialized size).base) ∈
        trace.map Sigma.fst ∧
      Runs (Cluster.create ⟨.ofSeconds 30, none, "https://api.test:6443/"⟩
        (Plan.requestedMachine (applianceTemplate size) applianceRequest) smallDatacenter
        (applianceTemplate size) (applianceMaterialized size).base).run exchange outcome ∧
      .create Cluster.machines "acme-dev" object ∈ exchange.map Sigma.fst := by
  obtain ⟨object, hobject⟩ := Option.isSome_iff_exists.mp hobject
  have hid : DnsLabel.validate (DnsLabel.sanitize "appliance") = .ok () := by decide +kernel
  obtain ⟨trace, result, exchange, outcome, hrun⟩ :=
    h.exists_created ⟨rfl, .inl rfl⟩ hid hobject
      (isSendable_smallDatacenter object) ⟨.ofSeconds 30, none, "https://api.test:6443/"⟩
  exact ⟨trace, result, exchange, outcome, object, hrun⟩

/-- A disk of 10 GiB in the template is created as it was checked. -/
theorem exists_created_fitsDisk :
    ∃ trace result exchange outcome object,
      Runs (deploy Congruential.source 0 applianceRequest smallDatacenter).run trace result ∧
      Runs (Cluster.create ⟨.ofSeconds 30, none, "https://api.test:6443/"⟩
        (Plan.requestedMachine (applianceTemplate "10Gi") applianceRequest) smallDatacenter
        (applianceTemplate "10Gi") (applianceMaterialized "10Gi").base).run exchange outcome ∧
      .create Cluster.machines "acme-dev" object ∈ exchange.map Sigma.fst ∧
      FitsDisk smallDatacenter.spec.quota.storageGi object := by
  obtain ⟨trace, result, exchange, outcome, object, hdeploy, hcall, hcreate, hpost⟩ :=
    exists_created_appliance admits_smallAppliance (by decide +kernel)
  refine ⟨trace, result, exchange, outcome, object, hdeploy, hcreate, hpost,
    (fitsDisk_created_iff hdeploy hcall hcreate hpost (by decide)).mpr ?_⟩
  intro machineObject hbase size bytes hsize hbytes
  have hdisk : (applianceMaterialized "10Gi").base.map Definition.requestedDisk? =
      some (some "10Gi") := by decide +kernel
  rw [Option.mem_def.mp hbase, Option.map_some, hsize] at hdisk
  cases hdisk
  have hsize : Quantity.bytes "10Gi" = .ok (10 * Quantity.gibibyte) := by decide +kernel
  rw [hsize] at hbytes
  cases hbytes
  decide

/-- A disk of 40 GiB in the template is created where 10 GiB were checked against 20. -/
theorem exists_created_not_fitsDisk :
    ∃ trace result machine template base exchange outcome object,
      Runs (deploy Congruential.source 0 applianceRequest smallDatacenter).run trace result ∧
      .call (.create machine smallDatacenter template base) ∈ trace.map Sigma.fst ∧
      Runs (Cluster.create ⟨.ofSeconds 30, none, "https://api.test:6443/"⟩ machine smallDatacenter
        template base).run exchange outcome ∧
      .create Cluster.machines "acme-dev" object ∈ exchange.map Sigma.fst ∧
      0 < smallDatacenter.spec.quota.storageGi ∧
      ¬FitsDisk smallDatacenter.spec.quota.storageGi object := by
  obtain ⟨trace, result, exchange, outcome, object, hdeploy, hcall, hcreate, hpost⟩ :=
    exists_created_appliance admits_largeAppliance (by decide +kernel)
  refine ⟨trace, result, _, _, _, exchange, outcome, object, hdeploy, hcall, hcreate, hpost,
    by decide, fun hfits => ?_⟩
  -- The 40 GiB of the base are created, which no check has seen.
  have hdisk := admits_largeAppliance.requestedDisk?_created hcreate hpost
  have hbase : (applianceMaterialized "40Gi").base.elim
      (some (Plan.requestedMachine (applianceTemplate "40Gi") applianceRequest).diskSize)
      Definition.requestedDisk? = some "40Gi" := by decide +kernel
  have hsize : Quantity.bytes "40Gi" = .ok (40 * Quantity.gibibyte) := by decide +kernel
  have hle := hfits "40Gi" _ (hdisk.trans hbase) hsize
  exact absurd hle (by decide)

end VmProvisioning
