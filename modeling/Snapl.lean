import Snapl.Collector.Fragments
import Snapl.Collector.Gnmi
import Snapl.Contract.ActivityRecords
import Snapl.Contract.AddressOrder
import Snapl.Contract.Agreement
import Snapl.Contract.AllClear
import Snapl.Contract.AuditOrder
import Snapl.Contract.AuditTrail
import Snapl.Contract.BatchFetch
import Snapl.Contract.BranchIsolation
import Snapl.Contract.BringUp
import Snapl.Contract.Convergence
import Snapl.Contract.DecisionRecord
import Snapl.Contract.DeliveredTrails
import Snapl.Contract.DeployFailures
import Snapl.Contract.DeployOutcome
import Snapl.Contract.DeployWrites
import Snapl.Contract.DriftBatch
import Snapl.Contract.DriftPaths
import Snapl.Contract.EntryPoints
import Snapl.Contract.Exclusion
import Snapl.Contract.FragmentedResponses
import Snapl.Contract.HiddenAddress
import Snapl.Contract.IntervalSyntax
import Snapl.Contract.Ipv4Rendering
import Snapl.Contract.ModulePrefixes
import Snapl.Contract.OwnNodes
import Snapl.Contract.ReconcileAccounting
import Snapl.Contract.Redelivery
import Snapl.Contract.ReferentialIntegrity
import Snapl.Contract.RenderingOrder
import Snapl.Contract.RepairLoop
import Snapl.Contract.Report
import Snapl.Contract.ReportOrder
import Snapl.Contract.RequestedPaths
import Snapl.Contract.RoundTrip
import Snapl.Contract.RunSummaries
import Snapl.Contract.ScanAccounting
import Snapl.Contract.ScheduleAtomicity
import Snapl.Contract.SchedulePolicy
import Snapl.Contract.ScheduleRecord
import Snapl.Contract.ScheduleUpdates
import Snapl.Contract.SchemaProvisioning
import Snapl.Contract.SeedFaithfulness
import Snapl.Contract.SeedIdempotence
import Snapl.Contract.SeedReport
import Snapl.Contract.SeededConfiguration
import Snapl.Contract.Selection
import Snapl.Contract.TriggerConsent
import Snapl.Contract.UnattendedWrites
import Snapl.Contract.Update
import Snapl.Contract.UpdateOrder
import Snapl.Contract.VerbatimRendering
import Snapl.Contract.Verification
import Snapl.Contract.Visibility
import Snapl.Executor.Gnmi
import Snapl.Executor.Renderer
import Snapl.Executor.Unique
import Snapl.Intent.Infrahub
import Snapl.Intent.InfrahubStore
import Snapl.Intent.InterfaceAddress
import Snapl.Intent.SchemaBatches
import Snapl.Intent.SchemaLoader
import Snapl.Intent.SchemaReadiness
import Snapl.Intent.SchemaRun
import Snapl.Intent.SchemaSections
import Snapl.Intent.Seed
import Snapl.Intent.SeedBgp
import Snapl.Intent.SeedEffects
import Snapl.Intent.SeedItems
import Snapl.Intent.SeedRun
import Snapl.Intent.SeedSections
import Snapl.Intent.SeedSessions
import Snapl.Intent.UpsertCalls
import Snapl.Intent.UpsertFrames
import Snapl.Library.Confinement
import Snapl.Library.FirstsByKey
import Snapl.Library.Gathering
import Snapl.Library.Interleaving
import Snapl.Library.Ipv4Text
import Snapl.Library.JsonLayout
import Snapl.Library.JsonVerbatim
import Snapl.Library.JsonVolume
import Snapl.Library.KeyedTree
import Snapl.Library.Linearization
import Snapl.Library.Polling
import Snapl.Library.Pool
import Snapl.Library.PythonRepr
import Snapl.Library.Transition
import Snapl.Library.Upsert
import Snapl.Observability.Diff
import Snapl.Observability.DiffMeaning
import Snapl.Observability.EntityPath
import Snapl.Orchestrator.Activities
import Snapl.Orchestrator.DeployCourse
import Snapl.Orchestrator.DeployIntent
import Snapl.Orchestrator.DriftResponse
import Snapl.Orchestrator.DriftResponseRun
import Snapl.Orchestrator.Models
import Snapl.Orchestrator.ReconcileDevices
import Snapl.Orchestrator.ReconcileRun
import Snapl.Orchestrator.Remediation
import Snapl.Orchestrator.ScanDrift
import Snapl.Orchestrator.ScanEvaluation
import Snapl.Orchestrator.ScanRun
import Snapl.Orchestrator.ScheduleCalls
import Snapl.Orchestrator.ScheduleOperators
import Snapl.Orchestrator.Schedules
import Snapl.Orchestrator.Serialization
import Snapl.Orchestrator.SerializationRun
import Snapl.Orchestrator.Srlinux
import Snapl.Orchestrator.SrlinuxState
import Snapl.Orchestrator.Temporal
import Snapl.Presentation.Cli
import Snapl.Presentation.ScheduleCommands
import Snapl.Presentation.ScheduleOutcome
import Snapl.Presentation.TriggerStages
import Snapl.Contract.Notifications
import Snapl.Contract.SeedConsistency
