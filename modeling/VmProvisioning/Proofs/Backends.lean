import VmProvisioning.Proofs.Cluster.Refinement
import VmProvisioning.Proofs.Simulation.Refinement

/-!
# The backends behave alike

The simulated registry and a cluster both simulate the stages of machines, so that their callers
cannot tell them apart: call by call, both succeed, or both fail in the same way.

## Main results

* `observations_cluster_eq_registry`: a run of calls from the empty backends is observed alike
-/

namespace VmProvisioning

open DnsLabel

/-- **The backends behave alike**: a sequence of proper calls on a cluster without objects and on
the empty registry gives the same failures, and successes that only differ in what belongs to the
backend. -/
theorem observations_cluster_eq_registry {platform : Platform} (hplatform : platform.RunsMachines)
    (settings : ClusterSettings) (calls : List (String × Call))
    (hproper : ∀ entry ∈ calls, entry.2.IsProper) :
    observations (fun entry => entry.2.observed (platform.reply settings)) calls Store.empty =
      observations (fun entry => entry.2.observed (Registry.answer entry.1)) calls [] := by
  -- In the empty backends all machines are absent.
  have hstages : Registry.stages [] = Store.empty.stages := by
    funext ⟨ns, id⟩
    cases hvalid : validate id with
    | error failure => simp [Registry.stages_of_invalid hvalid, Store.stages, hvalid]
    | ok =>
      rw [Registry.stages_eq [] (Registry.key_of_valid ns hvalid), Store.stages_eq hvalid]
      rfl
  -- From there both are observed like the stages.
  rw [(Cluster.simulates_stages hplatform settings).observations_eq hproper
      ⟨.empty, rfl⟩,
    Registry.simulates_stages.observations_eq (fun _ _ => trivial) ⟨Registry.isSound_nil, hstages⟩]

/-! ## A run -/

/-- A platform with every resource. It tells in the status of a machine object whether the machine
is to run, and gives an instance its address by the time it is asked for. -/
def podPlatform : Platform where
  serves _ := true
  showMachine _ machine :=
    machine.merge (.nest ["status", "ready"] (.bool (Definition.wantsRunning machine)))
  makeInstance moment machine := .ofMembers [
    ("metadata", .ofTexts [("name", (machine.textAt? ["metadata", "name"]).getD "")]),
    ("status", .ofMembers [("phase", .text "Running"),
      ("interfaces", .array [.ofTexts [("ipAddress", "10.244.0." ++ toString moment)]])])]

theorem runsMachines_podPlatform : podPlatform.RunsMachines where
  servesMachines := rfl
  servesInstances := rfl
  isReadable_showMachine _ _ h := h.merge rfl
  runStrategy _ _ := Json.at?_merge_of_leaves (.absent rfl)
  running _ _ := Json.at?_merge_of_leaves (.absent rfl)
  ready _ machine := by
    have hready : (podPlatform.showMachine 0 machine).at? ["status", "ready"] =
        some (.bool (Definition.wantsRunning machine)) :=
      Json.at?_merge_of_sets (.inside (Definition.isOrdered_singleton _ _) rfl
        (.inside (Definition.isOrdered_singleton _ _) rfl (.here rfl (by simp))))
    exact congrArg (Option.bind · Json.bool?) hready
  isReadable_makeInstance _ _ _ := rfl
  isRunning _ _ _ := rfl
  hasAddress moment _ _ := by
    refine ⟨.ofTexts [("ipAddress", "10.244.0." ++ toString moment)], List.mem_cons_self, ?_⟩
    show "10.244.0." ++ toString moment ≠ ""
    simp

/-- The machine object of a template, which has a run strategy. -/
def strategicBase : Json :=
  .nest ["spec", "runStrategy"] (.text "Always")

/-- The life of a machine. -/
def lifeOfMachine : List (String × Call) :=
  let machine : Machine := .new "web" "Web" 2 "4Gi" "30Gi"
  let datacenter : Datacenter := ⟨"acme", "acme", "acme-dev", ⟨0, 0, 0⟩, none⟩
  [.create machine datacenter (.new "fedora") (some strategicBase),
    .create machine datacenter (.new "fedora") none, .ipAddress "web" "acme-dev",
    .start "web" "acme-dev", .start "web" "acme-dev", .status "web" "acme-dev",
    .restart "web" "acme-dev", .stop "web" "acme-dev", .restart "web" "acme-dev",
    .delete "web" "acme-dev", .consoleUrl "web" "acme-dev", .stop "We b" "acme-dev"].map
      fun call => ("2024-05-01T12:00:00Z", call)

theorem isProper_of_mem_lifeOfMachine : ∀ entry ∈ lifeOfMachine, entry.2.IsProper := by
  have hentries : ∀ entry ∈ lifeOfMachine, (entry.2.target?.map Prod.fst = some "acme-dev") ∧
      (entry.2.base? = none ∨ entry.2.base? = some strategicBase) := by
    decide +kernel
  intro entry hentry
  obtain ⟨htarget, hbase⟩ := hentries entry hentry
  refine ⟨fun ns id h => ?_, fun members h => ?_⟩
  · rw [h] at htarget
    cases htarget
    decide +kernel
  · rcases hbase with hbase | hbase
    · rw [hbase] at h
      cases h
    · rw [hbase] at h
      cases h
      rfl

theorem observations_lifeOfMachine :
    podPlatform.RunsMachines ∧ (∀ entry ∈ lifeOfMachine, entry.2.IsProper) ∧
      observations (fun entry => entry.2.observed
          (podPlatform.reply ⟨.ofSeconds 30, none, "https://api.acme.test"⟩))
        lifeOfMachine Store.empty =
        [.ok .done, .error (.conflictFor .alreadyExists "acme-dev" "web"),
          .error (.conflictFor .noIpAssigned "acme-dev" "web"), .ok .done,
          .error (.conflictFor .alreadyRunning "acme-dev" "web"),
          .ok (.status .running true true), .ok .done, .ok .done,
          .error (.conflictFor .notRunning "acme-dev" "web"), .ok .done,
          .error (.notFound "VirtualMachine" "acme-dev" "web"),
          .error (.validation (.machineId "We b" "we-b"))] := by
  refine ⟨runsMachines_podPlatform, isProper_of_mem_lifeOfMachine, ?_⟩
  -- The registry is evaluated in place of the cluster.
  rw [observations_cluster_eq_registry runsMachines_podPlatform _ _ isProper_of_mem_lifeOfMachine]
  decide +kernel

end VmProvisioning
