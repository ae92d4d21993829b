import Obliance.Agent.Airgap
import Obliance.Agent.AirgapLinux
import Obliance.Agent.AirgapWindows
import Obliance.Agent.AuthorizedKeys
import Obliance.Agent.CommandChannel
import Obliance.Agent.CustomSection
import Obliance.Agent.Execution
import Obliance.Agent.KeyLine
import Obliance.Agent.PrivacyGate
import Obliance.Agent.Push
import Obliance.Agent.SectionDelivery
import Obliance.Agent.UpdateUids
import Obliance.Agent.Updates
import Obliance.Agent.WebSocket
import Obliance.Alerts.Alone
import Obliance.Alerts.Feed
import Obliance.Alerts.Incidents
import Obliance.Alerts.Keys
import Obliance.Alerts.Rows
import Obliance.Alerts.Service
import Obliance.Approvals.Once
import Obliance.Approvals.Service
import Obliance.Backup.GroupSection
import Obliance.Backup.RoundTrip
import Obliance.Backup.RowSections
import Obliance.Backup.Sections
import Obliance.Bastion.AllowList
import Obliance.Bastion.Bans
import Obliance.Bastion.KeyFormats
import Obliance.Bastion.ProxyJump
import Obliance.Changes.Timeline
import Obliance.Commands.Acks
import Obliance.Commands.Batches
import Obliance.Commands.Delivery
import Obliance.Commands.Isolation
import Obliance.Commands.Monotone
import Obliance.Commands.Statuses
import Obliance.Commands.Tables
import Obliance.Cves.Catalog
import Obliance.Cves.Rescan
import Obliance.Cves.Versions
import Obliance.Dashboard.Extraction
import Obliance.Db.Int4
import Obliance.Delegation.Verify
import Obliance.Devices.DiskHealth
import Obliance.Devices.DuplicateAgent
import Obliance.Devices.Fingerprints
import Obliance.Devices.ProcessSnapshots
import Obliance.Devices.Tables
import Obliance.Groups.Closure
import Obliance.Groups.Import
import Obliance.Groups.Move
import Obliance.Groups.Runs
import Obliance.Groups.Service
import Obliance.Groups.Slug
import Obliance.Groups.Tables
import Obliance.Groups.TopoSort
import Obliance.Js.Doubles
import Obliance.Js.Extremes
import Obliance.Js.Json
import Obliance.Js.Number
import Obliance.Js.Value
import Obliance.Lib.AsciiCase
import Obliance.Lib.Base64
import Obliance.Lib.BigEndian
import Obliance.Lib.CappedTally
import Obliance.Lib.Dialogue
import Obliance.Lib.FirstDistinct
import Obliance.Lib.GuardedFold
import Obliance.Lib.GuardedRun
import Obliance.Lib.InPlace
import Obliance.Lib.InterruptedWrites
import Obliance.Lib.IpCanonical
import Obliance.Lib.IpText
import Obliance.Lib.JsSet
import Obliance.Lib.KeyedTable
import Obliance.Lib.Leases
import Obliance.Lib.NewestFirst
import Obliance.Lib.Numbering
import Obliance.Lib.Numerals
import Obliance.Lib.Observed
import Obliance.Lib.Overwrite
import Obliance.Lib.PaddedOrder
import Obliance.Lib.ParentForest
import Obliance.Lib.Pool
import Obliance.Lib.Progress
import Obliance.Lib.Raising
import Obliance.Lib.Recurrence
import Obliance.Lib.RowIsolation
import Obliance.Lib.SlidingWindow
import Obliance.Lib.WriteBehind
import Obliance.Maintenance.Agreement
import Obliance.Maintenance.ClockTexts
import Obliance.Maintenance.Isolation
import Obliance.Maintenance.Recurring
import Obliance.Maintenance.Service
import Obliance.Maintenance.Stored
import Obliance.Maintenance.Transitions
import Obliance.Maintenance.Windows
import Obliance.Metrics.Cascade
import Obliance.Metrics.FailedEvaluation
import Obliance.Metrics.HistoryBatch
import Obliance.Metrics.Layers
import Obliance.Metrics.Muting
import Obliance.Metrics.Phantom
import Obliance.Metrics.Pushes
import Obliance.Metrics.RawMetrics
import Obliance.Metrics.ThresholdCache
import Obliance.Metrics.ThresholdService
import Obliance.Net.ClientIp
import Obliance.Net.SsrfGuard
import Obliance.Notify.Bindings
import Obliance.Notify.GroupNotifications
import Obliance.Notify.Incidents
import Obliance.Notify.Sources
import Obliance.Phone.ActionRunner
import Obliance.Phone.Alerts
import Obliance.Phone.Inbox
import Obliance.Phone.InboxInvariant
import Obliance.Phone.OnePerIncident
import Obliance.Phone.Pass
import Obliance.Phone.Ringing
import Obliance.Phone.RingsOnce
import Obliance.Phone.ServerRegistry
import Obliance.Phone.ServerUrl
import Obliance.Phone.Triage
import Obliance.Phone.TunnelSocket
import Obliance.Portability.Commit
import Obliance.Portability.CooldownImport
import Obliance.Portability.Export
import Obliance.Portability.Import
import Obliance.Portability.Imported
import Obliance.Portability.RoundTrip
import Obliance.Portability.Tables
import Obliance.Portability.Validation
import Obliance.Remote.Ends
import Obliance.Remote.Pairing
import Obliance.Remote.Relay
import Obliance.Remote.Session
import Obliance.Remote.Start
import Obliance.Remote.Wiring
import Obliance.Restrictions.Levels
import Obliance.Scenario.Accountable
import Obliance.Scenario.Cooldown
import Obliance.Scenario.Cron
import Obliance.Scenario.CronOnce
import Obliance.Scenario.Endings
import Obliance.Scenario.Engine
import Obliance.Scenario.Executors
import Obliance.Scenario.FanOut
import Obliance.Scenario.Graph
import Obliance.Scenario.Meaning
import Obliance.Scenario.MetricTrigger
import Obliance.Scenario.Migrate
import Obliance.Scenario.Migrated
import Obliance.Scenario.Parking
import Obliance.Scenario.Provenance
import Obliance.Scenario.Resume
import Obliance.Scenario.RunRights
import Obliance.Scenario.Steps
import Obliance.Scenario.Tasks
import Obliance.Scenario.Terminal
import Obliance.Scenario.Visits
import Obliance.Scenario.Writes
import Obliance.Schedules.DispatchOnce
import Obliance.Schedules.Orderly
import Obliance.Schedules.Targets
import Obliance.Schedules.Ticks
import Obliance.Scripts.Library
import Obliance.Scripts.Tree
import Obliance.Settings.Service
import Obliance.SoftwareCompliance.Isolation
import Obliance.SoftwareCompliance.Lists
import Obliance.SoftwareCompliance.Remediation
import Obliance.StepUp.CodeThrottle
import Obliance.StepUp.TotpSteps
import Obliance.Updates.AutoApproval
import Obliance.Updates.BulkDeploy
import Obliance.Updates.Fleet
import Obliance.Updates.Lifecycle
import Obliance.Updates.Service
import Obliance.Users.CapabilityBatch
import Obliance.Users.DeviceAccess
import Obliance.Users.DeviceRights
import Obliance.Users.Memberships
import Obliance.Users.PasswordReset
import Obliance.Users.Provision
import Obliance.Users.Scope
import Obliance.Users.SessionTenant
import Obliance.Users.Tables
import Obliance.Users.VisibleGroups
import Obliance.Users.VisibleListings
