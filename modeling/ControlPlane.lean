import ControlPlane.Admin.Line
import ControlPlane.Admin.MediaType
import ControlPlane.Admin.Router
import ControlPlane.Admin.Target
import ControlPlane.Allocation
import ControlPlane.Choice
import ControlPlane.Cluster
import ControlPlane.CommandLine
import ControlPlane.Container.Basic
import ControlPlane.Container.Inventory
import ControlPlane.Decimal.Binary
import ControlPlane.Decimal.Format
import ControlPlane.Decimal.Shortest
import ControlPlane.Duration
import ControlPlane.Error
import ControlPlane.Exclusions
import ControlPlane.Ident
import ControlPlane.Instant
import ControlPlane.Json.Canonical
import ControlPlane.Json.Document
import ControlPlane.Json.Numeral
import ControlPlane.Json.Reader
import ControlPlane.Json.Token
import ControlPlane.Json.Value
import ControlPlane.Json.Wire
import ControlPlane.Main
import ControlPlane.Manager
import ControlPlane.Metrics
import ControlPlane.Net.Address
import ControlPlane.Node.Report
import ControlPlane.Node.Status
import ControlPlane.Pipeline.Basic
import ControlPlane.Pipeline.Pool
import ControlPlane.Placement
import ControlPlane.Proofs.Admin.Router
import ControlPlane.Proofs.Allocation.Balance
import ControlPlane.Proofs.Allocation.Cleanup
import ControlPlane.Proofs.Allocation.Closing
import ControlPlane.Proofs.Allocation.Create
import ControlPlane.Proofs.Allocation.Drain
import ControlPlane.Proofs.Allocation.Frame
import ControlPlane.Proofs.Allocation.Limit
import ControlPlane.Proofs.Allocation.LimitReached
import ControlPlane.Proofs.Allocation.Numbering
import ControlPlane.Proofs.Allocation.Outcome
import ControlPlane.Proofs.Allocation.Request
import ControlPlane.Proofs.Allocation.Scan
import ControlPlane.Proofs.Allocation.Serviceable
import ControlPlane.Proofs.Allocation.Soundness
import ControlPlane.Proofs.Allocation.Volumes
import ControlPlane.Proofs.Container.Numbers
import ControlPlane.Proofs.Container.Strays
import ControlPlane.Proofs.Duration
import ControlPlane.Proofs.Duration.Grammar
import ControlPlane.Proofs.Json.Numeral
import ControlPlane.Proofs.Json.Print
import ControlPlane.Proofs.Json.Reader
import ControlPlane.Proofs.Json.Token
import ControlPlane.Proofs.Json.Value
import ControlPlane.Proofs.Manager.Closed
import ControlPlane.Proofs.Manager.Pairing
import ControlPlane.Proofs.Manager.Publication
import ControlPlane.Proofs.Manager.Quorum
import ControlPlane.Proofs.Manager.Recount
import ControlPlane.Proofs.Manager.Redelivery
import ControlPlane.Proofs.Manager.Refusals
import ControlPlane.Proofs.Manager.Reports
import ControlPlane.Proofs.Manager.Run
import ControlPlane.Proofs.Manager.Senders
import ControlPlane.Proofs.Net.Address
import ControlPlane.Proofs.Pipeline.Pool
import ControlPlane.Proofs.Placement.Favor
import ControlPlane.Proofs.Placement.Load
import ControlPlane.Proofs.Placement.Spread
import ControlPlane.Proofs.Readiness.Counting
import ControlPlane.Proofs.Readiness.Exit
import ControlPlane.Proofs.Readiness.Frozen
import ControlPlane.Proofs.Readiness.Healthy
import ControlPlane.Proofs.Readiness.Ledger
import ControlPlane.Proofs.Readiness.Notices
import ControlPlane.Proofs.Readiness.Pass
import ControlPlane.Proofs.Readiness.Publication
import ControlPlane.Proofs.Readiness.Quorum
import ControlPlane.Proofs.Readiness.Redelivery
import ControlPlane.Proofs.Readiness.Replicas
import ControlPlane.Proofs.Readiness.Reported
import ControlPlane.Proofs.Readiness.Reports
import ControlPlane.Proofs.Readiness.Rule
import ControlPlane.Proofs.Readiness.Run
import ControlPlane.Proofs.Readiness.SafeMode
import ControlPlane.Proofs.Registry
import ControlPlane.Proofs.Registry.Census
import ControlPlane.Proofs.Registry.History
import ControlPlane.Proofs.Registry.Hosts
import ControlPlane.Proofs.Session
import ControlPlane.Proofs.Settings.File
import ControlPlane.Proofs.Sorted
import ControlPlane.Proofs.Text.Blank
import ControlPlane.Proofs.Text.Digits
import ControlPlane.Readiness.Event
import ControlPlane.Readiness.NodeRule
import ControlPlane.Readiness.PipelineRules
import ControlPlane.Readiness.ReplicaRule
import ControlPlane.Readiness.Rule
import ControlPlane.Readiness.SafeMode
import ControlPlane.Readiness.Services
import ControlPlane.Readiness.Status
import ControlPlane.Registry
import ControlPlane.Replication
import ControlPlane.Settings.Basic
import ControlPlane.Settings.File
import ControlPlane.Shutdown
import ControlPlane.SortedMap
import ControlPlane.SortedSet
import ControlPlane.Table
import ControlPlane.Text.Blank
import ControlPlane.Text.Scan
import ControlPlane.Text.Whole
import ControlPlane.Uuid
