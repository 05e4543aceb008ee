import VmProvisioning.Text.Casing
import VmProvisioning.Text.Blank
import VmProvisioning.Text.Quoted
import VmProvisioning.Text.Search
import VmProvisioning.Fields
import VmProvisioning.Number.Binary64
import VmProvisioning.Number.Decimal
import VmProvisioning.Number.Shortest
import VmProvisioning.Json.Basic
import VmProvisioning.Json.Reader
import VmProvisioning.Json.Writer
import VmProvisioning.Failure
import VmProvisioning.DnsLabel
import VmProvisioning.Quantity
import VmProvisioning.Json.Record
import VmProvisioning.Machine.Basic
import VmProvisioning.Machine.Status
import VmProvisioning.Datacenter
import VmProvisioning.Kind
import VmProvisioning.Template.Basic
import VmProvisioning.Random
import VmProvisioning.Template.Pattern
import VmProvisioning.Template.Reference
import VmProvisioning.Template.Binding
import VmProvisioning.Ownership
import VmProvisioning.Deployment.Request
import VmProvisioning.Deployment.Manifest
import VmProvisioning.Interaction
import VmProvisioning.Duration
import VmProvisioning.Api.Request
import VmProvisioning.Timestamp
import VmProvisioning.Api.Schema
import VmProvisioning.Api.Object
import VmProvisioning.Api.Answer
import VmProvisioning.Quota.Admission
import VmProvisioning.Quota.ResourceQuota
import VmProvisioning.Quota.LimitRange
import VmProvisioning.Quota.Enforcement
import VmProvisioning.Lifecycle
import VmProvisioning.Simulation.Address
import VmProvisioning.Simulation.Registry
import VmProvisioning.Json.MergePatch
import VmProvisioning.Cluster.Definition
import VmProvisioning.Cluster.Machines
import VmProvisioning.Template.Store
import VmProvisioning.Deployment.Pipeline
import VmProvisioning.Deployment.Surroundings
import VmProvisioning.Settings
import VmProvisioning.Datacenter.Definition
import VmProvisioning.Yaml.Reader
import VmProvisioning.Kubeconfig
import VmProvisioning.Yaml.Writer
import VmProvisioning.Datacenter.Document
import VmProvisioning.CommandLine.Options
import VmProvisioning.CommandLine.Invocation
import VmProvisioning.CommandLine.Program
import VmProvisioning.Main
import VmProvisioning.Proofs.Fields
import VmProvisioning.Proofs.Simulation.Address
import VmProvisioning.Proofs.Simulation.Allocation
import VmProvisioning.Proofs.Simulation.Operations
import VmProvisioning.Proofs.Simulation.Coherence
import VmProvisioning.Proofs.Interaction
import VmProvisioning.Proofs.Deployment.Concurrency
import VmProvisioning.Proofs.Deployment.Course
import VmProvisioning.Proofs.Json.MergePatch
import VmProvisioning.Proofs.Cluster.Definition
import VmProvisioning.Proofs.Api.Exchange
import VmProvisioning.Proofs.Deployment.Manifest
import VmProvisioning.Proofs.Deployment.Materialization
import VmProvisioning.Proofs.Deployment.Disk
import VmProvisioning.Proofs.Deployment.Footprint
import VmProvisioning.Proofs.Deployment.Removal
import VmProvisioning.Proofs.Number
import VmProvisioning.Proofs.Quantity
import VmProvisioning.Proofs.Quota.Admission
import VmProvisioning.Proofs.Timestamp
import VmProvisioning.Proofs.Api.Schema
import VmProvisioning.Proofs.DnsLabel
import VmProvisioning.Proofs.Lifecycle
import VmProvisioning.Proofs.Simulation.Refinement
import VmProvisioning.Proofs.Cluster.Retry
import VmProvisioning.Proofs.Cluster.Store
import VmProvisioning.Proofs.Cluster.Sweep
import VmProvisioning.Proofs.Cluster.Operations
import VmProvisioning.Proofs.Cluster.Refinement
import VmProvisioning.Proofs.Backends
import VmProvisioning.Proofs.Simulation.Independence
import VmProvisioning.Proofs.Quota.Enforcement
import VmProvisioning.Proofs.Interleaving
import VmProvisioning.Proofs.Cluster.Overlap
import VmProvisioning.Proofs.Deployment.Rollback
import VmProvisioning.Proofs.Json.Record
import VmProvisioning.Proofs.Json.Formats
import VmProvisioning.Proofs.Text.Bytes
import VmProvisioning.Proofs.Template.Catalog
import VmProvisioning.Proofs.Trace
import VmProvisioning.Proofs.Cluster.Loops
import VmProvisioning.Proofs.Cluster.Failing
import VmProvisioning.Proofs.Cluster.Deletion
import VmProvisioning.Proofs.Template.Reference
import VmProvisioning.Proofs.Json.MergeLaws
import VmProvisioning.Proofs.Cluster.Overlay
import VmProvisioning.Proofs.Json.Scalar
import VmProvisioning.Proofs.Deployment.Ordered
import VmProvisioning.Proofs.Cluster.RunState
import VmProvisioning.Proofs.Quota.InvalidBounds
import VmProvisioning.Proofs.DnsLabel.Form
import VmProvisioning.Proofs.Template.Pattern
import VmProvisioning.Proofs.Template.Binding
import VmProvisioning.Proofs.Json.Row
import VmProvisioning.Proofs.Template.Parameters
import VmProvisioning.Proofs.Text.Offsets
import VmProvisioning.Proofs.Template.Pattern.CharClass
import VmProvisioning.Proofs.Template.Pattern.Grammar
import VmProvisioning.Proofs.Template.Pattern.Scan
import VmProvisioning.Proofs.Deployment.CallerValues
import VmProvisioning.Proofs.Template.Entries
import VmProvisioning.Proofs.Template.Fallback
import VmProvisioning.Proofs.Quota.LimitRange
import VmProvisioning.Proofs.Machine.Status
import VmProvisioning.Proofs.Simulation.AddressPool
import VmProvisioning.Proofs.Simulation.Listing
import VmProvisioning.Proofs.Template.ReadableName
import VmProvisioning.Proofs.Template.OperatingSystem
import VmProvisioning.Proofs.Simulation.Search
import VmProvisioning.Proofs.Json.MergeProcedure
