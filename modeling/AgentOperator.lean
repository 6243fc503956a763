import AgentOperator.Api.Request
import AgentOperator.Api.Response
import AgentOperator.Api.Target
import AgentOperator.Backoff
import AgentOperator.Binary64
import AgentOperator.Blueprint
import AgentOperator.Cluster
import AgentOperator.Cluster.Inventory
import AgentOperator.Condition
import AgentOperator.Condition.Rollout
import AgentOperator.ControlLoop
import AgentOperator.Conventions
import AgentOperator.Credential.Expiry
import AgentOperator.Credential.Issuer
import AgentOperator.Decimal.Shortest
import AgentOperator.Decoding
import AgentOperator.Decoding.Error
import AgentOperator.Definition
import AgentOperator.Definition.Schema
import AgentOperator.Duration
import AgentOperator.Fields
import AgentOperator.Instance
import AgentOperator.Json
import AgentOperator.Json.Fault
import AgentOperator.Json.Lexeme
import AgentOperator.Json.Printer
import AgentOperator.Json.Reader
import AgentOperator.Manifest.Access
import AgentOperator.Manifest.Credential
import AgentOperator.Manifest.Workload
import AgentOperator.Metrics
import AgentOperator.Metrics.Exposition
import AgentOperator.Object
import AgentOperator.Object.Key
import AgentOperator.Object.Kind
import AgentOperator.Object.Metadata
import AgentOperator.Pass
import AgentOperator.Pass.Sequence
import AgentOperator.Pass.Status
import AgentOperator.Probe
import AgentOperator.Retry
import AgentOperator.Scenario.Exchange
import AgentOperator.Scenario.Input
import AgentOperator.Scenario.Output
import AgentOperator.Scenario.Startup
import AgentOperator.Scenario.Steps
import AgentOperator.Scenario.Watch
import AgentOperator.Settings
import AgentOperator.Shape
import AgentOperator.Shape.Container
import AgentOperator.Shape.Placement
import AgentOperator.Shape.Pod
import AgentOperator.Shape.Reader
import AgentOperator.Shape.Volume
import AgentOperator.Startup
import AgentOperator.Startup.Listener
import AgentOperator.Startup.Notice
import AgentOperator.Step
import AgentOperator.Step.Marker
import AgentOperator.Step.Resource
import AgentOperator.Step.Result
import AgentOperator.Store.Poll
import AgentOperator.Store.Program
import AgentOperator.Text.Character
import AgentOperator.Text.Encoding
import AgentOperator.Timestamp
import AgentOperator.Timestamp.Calendar
import AgentOperator.Timestamp.Relaxed
import AgentOperator.Timestamp.Text
import AgentOperator.Watch
import AgentOperator.Watch.Feed
import AgentOperator.Watch.Intake
import AgentOperator.Watch.Pause
import AgentOperator.Watch.Sighting
import AgentOperator.Watch.Simulation
import AgentOperator.Watch.Slots
import AgentOperator.Workload.DaemonSet
import AgentOperator.World
import AgentOperator.World.Session
import AgentOperator.Proofs.JsonMembers
import AgentOperator.Proofs.StepTrace
import AgentOperator.Proofs.PassTrace
import AgentOperator.Proofs.CleanupMarker
import AgentOperator.Proofs.MarkerGate
import AgentOperator.Proofs.DerivedConditions
import AgentOperator.Proofs.ObservedGeneration
import AgentOperator.Proofs.StatusRace
import AgentOperator.Proofs.FailureHistory
import AgentOperator.Proofs.AgentPass
import AgentOperator.Proofs.AgentStored
import AgentOperator.Proofs.Lifecycle
import AgentOperator.Proofs.WorldTrace
import AgentOperator.Proofs.AgentNames
import AgentOperator.Proofs.StepResults
import AgentOperator.Proofs.ReconciledCondition
import AgentOperator.Proofs.FaultlessStore
import AgentOperator.Proofs.ScannerPass
import AgentOperator.Proofs.ScannerNamespaces
import AgentOperator.Proofs.ExpiryRace
import AgentOperator.Proofs.StepEffect
import AgentOperator.Proofs.ConditionRoundTrip
import AgentOperator.Proofs.RolloutVersion
import AgentOperator.Proofs.PassEffect
import AgentOperator.Proofs.StepConvergence
import AgentOperator.Proofs.Collection
import AgentOperator.Proofs.StepChange
import AgentOperator.Proofs.LivePass
import AgentOperator.Proofs.InstanceWrites
import AgentOperator.Proofs.Quiescence
import AgentOperator.Proofs.CleanRemoval
import AgentOperator.Proofs.Calendar
import AgentOperator.Proofs.TimestampText
import AgentOperator.Proofs.CredentialIssue
import AgentOperator.Proofs.FreshCredential
import AgentOperator.Proofs.StepObjects
import AgentOperator.Proofs.OwnedWatches
import AgentOperator.Proofs.CleanupInventory
import AgentOperator.Proofs.FailureIsolation
import AgentOperator.Proofs.ScannerNames
import AgentOperator.Proofs.CrossReferences
import AgentOperator.Proofs.RecordShape
import AgentOperator.Proofs.RelaxedTime
import AgentOperator.Proofs.MetadataRoundTrip
import AgentOperator.Proofs.InstanceReading
import AgentOperator.Proofs.InstanceRoundTrip
import AgentOperator.Proofs.MetricsAccounts
import AgentOperator.Proofs.ConditionHistory
import AgentOperator.Proofs.UsableCredential
import AgentOperator.Proofs.PassReference
import AgentOperator.Proofs.ExpiryArithmetic
import AgentOperator.Proofs.CredentialRecord
import AgentOperator.Proofs.StoreRace
import AgentOperator.Proofs.MarkerRace
import AgentOperator.Proofs.Rehearsal
import AgentOperator.Proofs.BoundedRetry
import AgentOperator.Proofs.PollTimes
import AgentOperator.Proofs.AvailableCondition
import AgentOperator.Proofs.ConditionUpdates
import AgentOperator.Proofs.ListenerWindow
import AgentOperator.Proofs.StatusRemoval
import AgentOperator.Proofs.VanishedAgent
import AgentOperator.Proofs.OwnerStamp
import AgentOperator.Proofs.FieldOrder
import AgentOperator.Proofs.StartupSummary
