import VmProvisioning.Proofs.Quota.Enforcement
import VmProvisioning.Proofs.Trace

/-!
# Bounds that no machine can keep

The bounds of a datacenter are checked when its limit range is due, and by then its quota has been
applied. So the failure that says the bounds are invalid comes after just one request: the limit
range is as before, and the quota is that of the datacenter, whatever it was.

## Main definitions

* `Enforcement.quotaRequest`: the request that applies the quota of a datacenter
* `Enforcement.IsQuotaAccepted`: an answer after which the quota counts as applied

## Main results

* `runs_applyDatacenter_validation_iff`: the runs that end with invalid input
* `kept_of_applyDatacenter_validation`: the objects after such a run
* `applyDatacenter_with_invalid_bounds`: both, and when such a run changes nothing
-/

namespace VmProvisioning

open Interaction

namespace Api

variable {α : Type} {concern : Concern} {request : Request} {read : Json → Option α}
  {recover : Trouble → Option (Except Failure α)} {cause : Invalid}

/-- Trouble with a request does not make the input invalid. -/
theorem Trouble.toFailure_ne_validation (trouble : Trouble) :
    trouble.toFailure concern ≠ .validation cause := by
  cases trouble with
  | refused answer =>
    simp only [toFailure, refusalFailure]
    split
    · nofun
    · split
      · nofun
      · nofun
  | _ => nofun

/-- The outcome of a request does not make the input invalid. -/
theorem settle_ne_validation
    (hrecover : ∀ trouble, recover trouble ≠ some (.error (.validation cause)))
    (outcome : Except Trouble α) :
    settle concern recover outcome ≠ .error (.validation cause) := by
  cases outcome with
  | ok value => nofun
  | error trouble =>
    have hne := hrecover trouble
    cases hremedy : recover trouble with
    | none =>
      simp only [settle, hremedy, Option.getD_none]
      exact fun h => trouble.toFailure_ne_validation (Except.error.inj h)
    | some remedy =>
      rw [hremedy] at hne
      simpa [settle, hremedy] using hne

theorem not_runs_exchangeOr_validation {trace : List (Event Request fun _ => Answer)}
    (hrecover : ∀ trouble, recover trouble ≠ some (.error (.validation cause))) :
    ¬Runs (exchangeOr concern request read recover).run trace (.error (.validation cause)) := by
  intro h
  rcases runs_exchangeOr_iff.mp h with ⟨-, answer, -, hresult⟩ | ⟨-, -, hresult⟩
  · exact settle_ne_validation hrecover _ hresult.symm
  · exact settle_ne_validation hrecover _ hresult.symm

end Api

namespace Enforcement

open Api

variable {timeout : Duration} {manager : String} {datacenter : Datacenter} {cause : Invalid}
  {ns : String} {bounds : Bounds} {trace : List (Event Request fun _ => Answer)}

/-! ## The quota -/

/-- **The request that applies the quota** of a datacenter. -/
def quotaRequest (manager : String) (datacenter : Datacenter) : Request :=
  .apply ResourceQuota.resource datacenter.workloadNamespace ResourceQuota.name manager
    (datacenter.spec.quota.resourceQuota datacenter.workloadNamespace).toJson

/-- **The quota counts as applied** after an answer that is a resource quota. -/
def IsQuotaAccepted (answer : Answer) : Prop :=
  answer.read (fun value => (Schema.resourceQuota.read? value).map fun _ => ()) = .ok ()

theorem runs_applyResourceQuota_ok_iff :
    Runs (applyResourceQuota timeout
        (datacenter.spec.quota.resourceQuota datacenter.workloadNamespace) manager).run trace
          (.ok ()) ↔
      (quotaRequest manager datacenter).isSendable = true ∧
        ∃ answer, IsQuotaAccepted answer ∧ trace = [⟨quotaRequest manager datacenter, answer⟩] := by
  rw [applyResourceQuota, exchangeFor, runs_exchangeOr_iff]
  constructor
  · rintro (⟨hsendable, answer, htrace, hresult⟩ | ⟨-, -, hresult⟩)
    · exact ⟨hsendable, answer, (settle_eq_ok_iff (by simp)).mp hresult.symm, htrace⟩
    · cases hresult
  · rintro ⟨hsendable, answer, haccepted, htrace⟩
    exact .inl ⟨hsendable, answer, htrace, ((settle_eq_ok_iff (by simp)).mpr haccepted).symm⟩

/-! ## The bounds -/

/-- Bounds are found invalid before anything is asked. -/
theorem runs_applyLimitRange_validation_iff :
    Runs (applyLimitRange timeout ns bounds manager).run trace (.error (.validation cause)) ↔
      bounds.validate = .error (.validation cause) ∧ trace = [] := by
  rw [applyLimitRange, Operation.runs_bind_iff]
  simp only [Operation.runs_ofExcept_iff]
  constructor
  · rintro (⟨failure, ⟨rfl, hvalid⟩, hfailure⟩ | ⟨before, valid, rest, -, -, hrest⟩)
    · cases hfailure
      exact ⟨hvalid.symm, rfl⟩
    · exact absurd hrest (not_runs_exchangeOr_validation (by simp))
  · rintro ⟨hvalid, rfl⟩
    exact .inl ⟨_, ⟨rfl, hvalid.symm⟩, rfl⟩

/-- **The runs that end with invalid input**: the bounds are invalid, and the quota has been
applied. -/
theorem runs_applyDatacenter_validation_iff :
    Runs (applyDatacenter timeout datacenter manager).run trace (.error (.validation cause)) ↔
      (∃ bounds ∈ datacenter.spec.limitRange, bounds.validate = .error (.validation cause)) ∧
        (quotaRequest manager datacenter).isSendable = true ∧
        ∃ answer, IsQuotaAccepted answer ∧ trace = [⟨quotaRequest manager datacenter, answer⟩] := by
  rw [applyDatacenter_eq, Operation.runs_bind_iff]
  constructor
  · rintro (⟨failure, hquota, hfailure⟩ | ⟨before, done, rest, rfl, hquota, hrange⟩)
    -- the quota fails for other reasons
    · cases hfailure
      exact absurd hquota (not_runs_exchangeOr_validation (by simp))
    · cases hbounds : datacenter.spec.limitRange with
      | none =>
        -- without bounds there is only a deletion left, and it makes up for a missing object alone
        rw [hbounds] at hrange
        refine absurd hrange (not_runs_exchangeOr_validation fun trouble => ?_)
        split
        · nofun
        · nofun
      | some bounds =>
        rw [hbounds] at hrange
        obtain ⟨hvalid, rfl⟩ := runs_applyLimitRange_validation_iff.mp hrange
        rw [List.append_nil]
        exact ⟨⟨bounds, rfl, hvalid⟩, runs_applyResourceQuota_ok_iff.mp hquota⟩
  · rintro ⟨⟨bounds, hbounds, hvalid⟩, hquota⟩
    refine .inr ⟨trace, (), [], (List.append_nil _).symm,
      runs_applyResourceQuota_ok_iff.mpr hquota, ?_⟩
    rw [Option.mem_def.mp hbounds]
    exact runs_applyLimitRange_validation_iff.mpr ⟨hvalid, rfl⟩

/-! ## The objects afterwards -/

variable {platform : Platform} {versions : StorageVersions} {faults : Nat → Option RequestFault}
  {store after : Store}

/-- **The objects after invalid input**: the quota is that of the datacenter, and nothing else has
changed. -/
theorem kept_of_applyDatacenter_validation
    (hfaults : ∀ moment fault, faults moment = some fault → fault.answer.isOutage = true)
    (h : ((applyDatacenter timeout datacenter manager).exec
      (platform.answerWith versions faults)).run store = (.error (.validation cause), after))
    (location : Location) :
    after.kept location =
      if location = quotaAt versions datacenter.workloadNamespace then
        some (datacenter.spec.quota.resourceQuota datacenter.workloadNamespace).toJson
      else store.kept location := by
  -- The run is known, so the store is the one after the quota.
  obtain ⟨trace, hrun, hreplays⟩ := Interaction.run_eq_iff.mp h
  obtain ⟨-, hquota⟩ := runs_applyDatacenter_validation_iff.mp hrun
  have happlied : ((applyResourceQuota timeout (datacenter.spec.quota.resourceQuota
      datacenter.workloadNamespace) manager).exec (platform.answerWith versions faults)).run store =
      (.ok (), after) :=
    Interaction.run_eq_iff.mpr ⟨trace, runs_applyResourceQuota_ok_iff.mpr hquota, hreplays⟩
  exact (kept_of_apply_eq_ok hfaults happlied).2.2 location

/-- **Invalid bounds are found after the quota has been applied.** The runs that end with invalid
input are those where the bounds are invalid and the quota, the only thing asked, is accepted.
Afterwards the quota is that of the datacenter and nothing else has changed; so nothing has changed
at all exactly when the quota was the same before. -/
theorem applyDatacenter_with_invalid_bounds (timeout : Duration) (manager : String)
    (datacenter : Datacenter) (cause : Invalid) :
    (∀ trace, Runs (applyDatacenter timeout datacenter manager).run trace
        (.error (.validation cause)) ↔
      (∃ bounds ∈ datacenter.spec.limitRange, bounds.validate = .error (.validation cause)) ∧
        (quotaRequest manager datacenter).isSendable = true ∧
        ∃ answer, IsQuotaAccepted answer ∧ trace = [⟨quotaRequest manager datacenter, answer⟩]) ∧
    ∀ (platform : Platform) (versions : StorageVersions) (faults : Nat → Option RequestFault),
      (∀ moment fault, faults moment = some fault → fault.answer.isOutage = true) →
      ∀ store after, ((applyDatacenter timeout datacenter manager).exec
          (platform.answerWith versions faults)).run store = (.error (.validation cause), after) →
        (∀ location, after.kept location =
          if location = quotaAt versions datacenter.workloadNamespace then
            some (datacenter.spec.quota.resourceQuota datacenter.workloadNamespace).toJson
          else store.kept location) ∧
        (after.kept = store.kept ↔
          store.kept (quotaAt versions datacenter.workloadNamespace) =
            some (datacenter.spec.quota.resourceQuota datacenter.workloadNamespace).toJson) := by
  refine ⟨fun trace => runs_applyDatacenter_validation_iff, ?_⟩
  intro platform versions faults hfaults store after h
  have hkept := kept_of_applyDatacenter_validation hfaults h
  refine ⟨hkept, ?_⟩
  constructor
  · intro hsame
    rw [← hsame, hkept, if_pos rfl]
  · intro hquota
    ext1 location
    rw [hkept]
    split
    · next heq => rw [heq, hquota]
    · rfl

/-- A datacenter whose machines would need more processors than they may have. -/
def crossedDatacenter : Datacenter :=
  ⟨"acme", ⟨"acme", "acme-dev", ⟨16, 64, 0⟩, some ⟨4, 1, 1, 8⟩⟩⟩

/-- What applying it to a cluster without objects comes to. -/
def crossedRun : Except Failure Unit × Store :=
  ((applyDatacenter Cluster.webSettings.timeout crossedDatacenter "platform-team").exec
    (podPlatform.answerWith Cluster.separateVersions fun _ => none)).run Store.empty

theorem kept_crossedRun :
    crossedRun.1 = .error (.validation (.cpuBounds 4 1)) ∧
      crossedRun.2.kept (rangeAt Cluster.separateVersions "acme-dev") = none ∧
      crossedRun.2.kept (quotaAt Cluster.separateVersions "acme-dev") =
        some (crossedDatacenter.spec.quota.resourceQuota "acme-dev").toJson := by
  have hfailed : crossedRun = (.error (.validation (.cpuBounds 4 1)), crossedRun.2) :=
    Prod.ext (by decide +kernel) rfl
  obtain ⟨-, hchanges⟩ := applyDatacenter_with_invalid_bounds Cluster.webSettings.timeout
    "platform-team" crossedDatacenter (.cpuBounds 4 1)
  obtain ⟨hkept, -⟩ := hchanges podPlatform Cluster.separateVersions (fun _ => none) (by simp)
    Store.empty crossedRun.2 hfailed
  refine ⟨congrArg Prod.fst hfailed, ?_, ?_⟩
  · rw [hkept, if_neg (quotaAt_ne_rangeAt _ _ _).symm]
    rfl
  · exact (hkept _).trans (if_pos rfl)

/-- The input is invalid, and the objects of the cluster have changed. -/
theorem crossedRun_changes :
    crossedRun.1 = .error (.validation (.cpuBounds 4 1)) ∧
      crossedRun.2.kept ≠ Store.empty.kept := by
  refine ⟨by decide +kernel, fun h => ?_⟩
  have hquota := congrFun h (quotaAt Cluster.separateVersions "acme-dev")
  revert hquota
  decide +kernel

end Enforcement

end VmProvisioning
