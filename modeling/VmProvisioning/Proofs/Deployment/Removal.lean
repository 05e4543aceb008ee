import VmProvisioning.Proofs.Cluster.Retry
import VmProvisioning.Proofs.Deployment.Footprint

/-!
# Deleting what a deployment created

A deployment labels all objects that it creates, whatever their kinds. A deletion looks for labelled
objects of the known kinds only, so that it leaves the companions of all other kinds.

## Main results

* `exec_delete_eq_ok`: the steps of a deletion that succeeds
* `removes_created_iff`: when a deletion removes everything that a deployment has created
-/

namespace VmProvisioning

open Api Cluster

variable {platform : Platform} {versions : StorageVersions} {before after final : Store}

/-- **The steps of a deletion that succeeds**: the machine is deleted, and then what was made for
it. -/
theorem Cluster.exec_delete_eq_ok {settings : ClusterSettings} {id ns : String}
    (h : ((delete settings id ns).exec (platform.answerIn versions)).run after = (.ok (), final)) :
    ((sweep settings id ns).exec (platform.answerIn versions)).run
      ((platform.answerIn versions (.delete machines ns id true)).run after).2 =
        (.ok (), final) := by
  rw [delete] at h
  obtain ⟨_, -, h⟩ := Operation.exec_ofExcept_bind_eq_ok h
  obtain ⟨_, middle, hmachine, hsweep⟩ := Operation.exec_bind_eq_ok h
  obtain ⟨-, rfl, -⟩ := exec_exchangeOr_eq_ok hmachine rfl
  exact hsweep

/-- Resources whose objects are kept at the same places. -/
theorem isOf_stored_place_iff {resource other : Resource} {ns name : String} :
    ((resource.stored versions).place ns name).isOf (other.stored versions) = true ↔
      resource.stored versions = other.stored versions := by
  simp only [Location.isOf, Resource.place, Resource.stored, Bool.and_eq_true, beq_iff_eq,
    Resource.mk.injEq, and_self]

/-- A companion of a known kind is removed. -/
theorem Footprint.kept_eq_none {deployed : Deployed} {settings : ClusterSettings}
    (h : Footprint platform versions deployed before after)
    (hsweep : ((sweep settings deployed.machine.id deployed.ns).exec
      (platform.answerIn versions)).run
        ((platform.answerIn versions
          (.delete machines deployed.ns deployed.machine.id true)).run after).2 = (.ok (), final))
    {companion : Manifest} {resource : Resource} {location : Location} {object : Json}
    (hmem : companion ∈ deployed.companions) (hresource : resource ∈ ownedKinds)
    (hstored : companion.resource.stored versions = resource.stored versions)
    (hmade : companion.IsMade platform versions location object)
    (hkept : after.kept location = some object) : final.kept location = none := by
  obtain ⟨hns, howned⟩ := h.owned companion hmem
  have hplace : location = (resource.stored versions).place deployed.ns location.name := by
    rw [← hstored, ← hns]
    exact hmade.created.eq_place
  -- The companion is still there when the machine is gone.
  have hne : location ≠ machineIn versions deployed.ns deployed.machine.id := by
    intro heq
    have howned : location.IsOfOwnedKind versions :=
      ⟨resource, hresource, hplace ▸ isOf_place _ _ _⟩
    exact not_isOfOwnedKind_machineIn (heq ▸ howned)
  have hmiddle : ((platform.answerIn versions
      (.delete machines deployed.ns deployed.machine.id true)).run after).2.kept location =
        some object := (Platform.kept_answerIn_delete_of_ne hne).trans hkept
  rw [hplace] at hmiddle ⊢
  exact kept_of_sweep_eq_ok hresource (hstored ▸ hmade.created.serves) hsweep hmiddle
    (label_object? hmade.eq_object howned) hmade.created.name

/-- **When a deletion removes everything that a deployment has created**: when all companions are
kept like objects of the known kinds. -/
theorem removes_created_iff {σ : Type} {source : RandomSource σ} {state : σ}
    {request : DeployRequest} {datacenter : Datacenter} {templates : TemplateSource}
    {settings : ClusterSettings} {timeout : Duration} {now : String} {memory last : Memory}
    {deployed : Deployed}
    (hdeploy : (Surroundings.carryOn ⟨templates, .cluster settings, .cluster timeout⟩ platform
      versions now (deploy source state request datacenter) memory).run before =
        ((.ok deployed, last), after))
    (hdelete : ((delete settings deployed.machine.id deployed.ns).exec
      (platform.answerIn versions)).run after = (.ok (), final)) :
    (∀ location, before.kept location = none → (after.kept location).isSome →
        final.kept location = none) ↔
      ∀ companion ∈ deployed.companions, ∃ resource ∈ ownedKinds,
        companion.resource.stored versions = resource.stored versions := by
  have hfootprint := footprint_of_deploy rfl rfl hdeploy
  have hsweep := exec_delete_eq_ok hdelete
  have hpruned : Pruned versions ((platform.answerIn versions
      (.delete machines deployed.ns deployed.machine.id true)).run after).2 final :=
    pruned_of_sweep (fun _ => pruned_of_isSwept) hsweep
  constructor
  · intro hremoved companion hmem
    by_contra hunknown
    obtain ⟨location, object, hmade, hne, hnone, hkept⟩ := hfootprint.companion companion hmem
    -- Neither the deletion of the machine nor the sweep is about the companion.
    have hsame := hpruned.kept_eq location (by
      rintro ⟨resource, hresource, hlocation⟩
      rw [hmade.created.eq_place, isOf_stored_place_iff] at hlocation
      exact hunknown ⟨resource, hresource, hlocation⟩)
    rw [Platform.kept_answerIn_delete_of_ne hne, hkept,
      hremoved location hnone (Option.isSome_of_mem hkept)] at hsame
    cases hsame
  · intro hknown location hnone hsome
    obtain ⟨object, hkept⟩ := Option.isSome_iff_exists.mp hsome
    rcases hfootprint.grown.isNew location object hnone hkept with rfl | ⟨companion, hmem, hmade⟩
    · exact hpruned.kept_eq_none (Platform.kept_answerIn_delete hfootprint.serves)
    · obtain ⟨resource, hresource, hstored⟩ := hknown companion hmem
      exact hfootprint.kept_eq_none hsweep hmem hresource hstored hmade hkept

/-! ## A companion that is removed and another that is left -/

/-- The only object of a template for a machine. -/
def sideObject (apiVersion kind : String) : Json :=
  .ofMembers [("apiVersion", .text apiVersion), ("kind", .text kind),
    ("metadata", .ofTexts [("name", "side")])]

/-- The template. -/
def sideTemplate (apiVersion kind : String) : Template :=
  { Template.new "web" with objects := [sideObject apiVersion kind] }

/-- A cluster for machines of the template, which is in memory. -/
def sideSurroundings (apiVersion kind : String) : Surroundings :=
  ⟨.static (.ofList "openshift" [.ofMembers [("metadata", .ofTexts [("name", "web")]),
    ("objects", .array [sideObject apiVersion kind])]]),
    .cluster webSettings, .cluster webSettings.timeout⟩

/-- A request for a machine of the template. -/
def sideRequest : DeployRequest :=
  ⟨"web", "web", "", none, "acme"⟩

/-- A datacenter without ceilings. -/
def sideDatacenter : Datacenter :=
  ⟨"acme", ⟨"acme", "acme-dev", ⟨0, 0, 0⟩, none⟩⟩

/-- What is deployed. -/
def sideDeployed (apiVersion kind : String) : Deployed :=
  ⟨Plan.requestedMachine (sideTemplate apiVersion kind) sideRequest, "acme-dev",
    sideTemplate apiVersion kind,
    [⟨.ofKind apiVersion kind, "side", "acme-dev", Manifest.own "acme-dev"
      (Ownership.labels "web" "acme" "web") (sideObject apiVersion kind)⟩]⟩

/-- The deployment on an empty cluster. -/
def sideDeployment (apiVersion kind : String) : (Except Failure Deployed × Memory) × Store :=
  ((sideSurroundings apiVersion kind).carryOn podPlatform separateVersions "2024-05-01T12:00:00Z"
    (deploy Congruential.source 0 sideRequest sideDatacenter) {}).run Store.empty

/-- The deletion of the machine after it. -/
def sideRemoval (apiVersion kind : String) : Except Failure Unit × Store :=
  ((delete webSettings "web" "acme-dev").exec (podPlatform.answerIn separateVersions)).run
    (sideDeployment apiVersion kind).2

/-- A secret is removed with the machine. -/
theorem removes_created_secret :
    (sideDeployment "v1" "Secret").1.1 = .ok (sideDeployed "v1" "Secret") ∧
      (sideRemoval "v1" "Secret").1 = .ok () ∧
      ∀ location, ((sideDeployment "v1" "Secret").2.kept location).isSome →
        (sideRemoval "v1" "Secret").2.kept location = none := by
  obtain ⟨hresult, hdone⟩ :
      (sideDeployment "v1" "Secret").1.1 = .ok (sideDeployed "v1" "Secret") ∧
        (sideRemoval "v1" "Secret").1 = .ok () := by
    decide +kernel
  refine ⟨hresult, hdone, ?_⟩
  rcases hdeploy : sideDeployment "v1" "Secret" with ⟨⟨result, last⟩, after⟩
  rcases hremoval : sideRemoval "v1" "Secret" with ⟨outcome, final⟩
  rw [hdeploy] at hresult
  rw [hremoval] at hdone
  obtain rfl : result = _ := hresult
  obtain rfl : outcome = _ := hdone
  rw [sideRemoval, hdeploy] at hremoval
  intro location hsome
  refine (removes_created_iff hdeploy hremoval).mpr ?_ location rfl hsome
  intro companion hmem
  obtain rfl := List.mem_singleton.mp hmem
  exact ⟨.ofKind "v1" "Secret", by decide +kernel, rfl⟩

/-- Where the route of the machine is kept. -/
def routePlace : Location :=
  ⟨"route.openshift.io/v1", "routes", "acme-dev", "side"⟩

/-- A route is left behind. -/
theorem route_created_not_removed :
    (sideDeployment "route.openshift.io/v1" "Route").1.1 =
        .ok (sideDeployed "route.openshift.io/v1" "Route") ∧
      (sideRemoval "route.openshift.io/v1" "Route").1 = .ok () ∧
      Store.empty.kept routePlace = none ∧
      ((sideDeployment "route.openshift.io/v1" "Route").2.kept routePlace).isSome ∧
      ((sideRemoval "route.openshift.io/v1" "Route").2.kept routePlace).isSome := by
  decide +kernel

end VmProvisioning
