import Reproof.Artifact.Counting
import Reproof.Artifact.Directory
import Reproof.Artifact.Leading
import Reproof.Artifact.Links
import Reproof.Artifact.Paths
import Reproof.Artifact.Posix
import Reproof.Artifact.Preflight
import Reproof.Artifact.ZipFile
import Reproof.Contracts.Assertions
import Reproof.Contracts.Documents
import Reproof.Contracts.Evidence
import Reproof.Contracts.Observation
import Reproof.Contracts.Projects
import Reproof.Contracts.Versions
import Reproof.Execution.Admission
import Reproof.Execution.Archive
import Reproof.Execution.Artifacts
import Reproof.Execution.Channel
import Reproof.Execution.Delivery
import Reproof.Execution.GuestLog
import Reproof.Execution.Interrupted
import Reproof.Execution.Journal
import Reproof.Execution.Overflow
import Reproof.Execution.Runs
import Reproof.Execution.Steps
import Reproof.Execution.Transfer
import Reproof.Execution.Wire
import Reproof.Fixtures.Calls
import Reproof.Fixtures.Coordinator
import Reproof.Fixtures.Histories
import Reproof.Fixtures.Moves
import Reproof.Fixtures.Recovery
import Reproof.Fixtures.Requests
import Reproof.Fixtures.Settled
import Reproof.Fixtures.Slots
import Reproof.Library.Base64
import Reproof.Library.Checked
import Reproof.Library.Clocks
import Reproof.Library.Der
import Reproof.Library.Dict
import Reproof.Library.Encoder
import Reproof.Library.Hunks
import Reproof.Library.Json
import Reproof.Library.Kleene
import Reproof.Library.Lines
import Reproof.Library.Prog
import Reproof.Library.Records
import Reproof.Library.Splicing
import Reproof.Library.Steps
import Reproof.Library.Table
import Reproof.Live.Access.Controller
import Reproof.Live.Access.Devices
import Reproof.Live.Access.Generations
import Reproof.Live.Access.Histories
import Reproof.Live.Access.Hosts
import Reproof.Live.Access.Operations
import Reproof.Live.Access.Revocation
import Reproof.Live.Access.Tables
import Reproof.Live.Authority.Adoption
import Reproof.Live.Authority.Capabilities
import Reproof.Live.Authority.Closing
import Reproof.Live.Authority.Cutover
import Reproof.Live.Authority.DeviceAuthority
import Reproof.Live.Authority.Frame
import Reproof.Live.Authority.Handles
import Reproof.Live.Authority.HostAuthority
import Reproof.Live.Authority.Keeping
import Reproof.Live.Authority.NativeCleanup
import Reproof.Live.Authority.NativeGrants
import Reproof.Live.Authority.Permits
import Reproof.Live.Authority.Reconciliation
import Reproof.Live.Authority.Release
import Reproof.Live.Authority.Site
import Reproof.Live.Authority.World
import Reproof.Live.ClockEpochs
import Reproof.Live.ClockSync
import Reproof.Live.Evidence.Tables
import Reproof.Live.Inventory.Histories
import Reproof.Live.Inventory.Registry
import Reproof.Live.Inventory.Updates
import Reproof.Live.IssueSessions.Cleanup
import Reproof.Live.IssueSessions.Replay
import Reproof.Live.IssueSessions.Stop
import Reproof.Live.Jobs.Lifecycle
import Reproof.Live.Jobs.Queue
import Reproof.Live.Jobs.Replays
import Reproof.Live.Jobs.Scheduling
import Reproof.Live.Jobs.Turns
import Reproof.Live.Jobs.Worker
import Reproof.Live.Lab.Admission
import Reproof.Live.Lab.Counter
import Reproof.Live.Lab.Devices
import Reproof.Live.Lab.Effects
import Reproof.Live.Lab.Exclusive
import Reproof.Live.Lab.Gestures
import Reproof.Live.Lab.Inputs
import Reproof.Live.Lab.Once
import Reproof.Live.Lab.Pending
import Reproof.Live.Lab.Playback.Plans
import Reproof.Live.Lab.Playback.Reviewed
import Reproof.Live.Lab.Pointers
import Reproof.Live.Lab.Sequences
import Reproof.Live.Lab.Sparing
import Reproof.Live.ProviderStamps
import Reproof.Live.RecordingSession.Clock
import Reproof.Live.RecordingSession.Machine
import Reproof.Live.RecordingSession.Outcomes
import Reproof.Live.RecordingSession.Pins
import Reproof.Live.RecordingSession.Quiet
import Reproof.Live.RecordingSession.Receipts
import Reproof.Live.RecordingSession.Rows
import Reproof.Live.RecordingSession.Samples
import Reproof.Live.RecordingSession.Transactions
import Reproof.Live.Recordings.Documents
import Reproof.Live.Recordings.Entries
import Reproof.Live.Recordings.Genuine
import Reproof.Live.Recordings.Replaying
import Reproof.Live.StateStore.Calls
import Reproof.Live.StateStore.Dispatch
import Reproof.Live.StateStore.Operations
import Reproof.Live.StateStore.Ownership
import Reproof.Live.StateStore.Quarantine
import Reproof.Live.StateStore.Schema
import Reproof.Live.StateStore.Shard
import Reproof.Live.StateStore.Simulation
import Reproof.Live.Storage.DiskBudget
import Reproof.Live.Storage.Headroom
import Reproof.Live.Transfer.Finalize
import Reproof.Live.Transfer.Stranded
import Reproof.Live.Video.Coalescing
import Reproof.Live.Video.Coverage
import Reproof.Live.Video.Losses
import Reproof.Live.Video.Markers
import Reproof.Live.Video.Sources
import Reproof.Live.VideoSink.Occupancy
import Reproof.Live.VideoSink.Pipeline
import Reproof.Provisioning.Cms
import Reproof.Qualification.Campaigns
import Reproof.Qualification.Engine
import Reproof.Qualification.Histories
import Reproof.Repair.Accounting
import Reproof.Repair.Attended
import Reproof.Repair.Diagnostics.Accepted
import Reproof.Repair.Diagnostics.AppLogs
import Reproof.Repair.Diagnostics.Complete
import Reproof.Repair.Diagnostics.Derivation
import Reproof.Repair.Diagnostics.Derived
import Reproof.Repair.Diagnostics.Projection
import Reproof.Repair.Diagnostics.Sessions
import Reproof.Repair.Diagnostics.Shown
import Reproof.Repair.Edits
import Reproof.Repair.Edits.Patches
import Reproof.Repair.Edits.Sources
import Reproof.Repair.Edits.UnifiedDiff.Files
import Reproof.Repair.Edits.UnifiedDiff.Hunks
import Reproof.Repair.Edits.UnifiedDiff.Rendering
import Reproof.Repair.Journal
import Reproof.Repair.Lifecycle
import Reproof.Repair.Orphans
import Reproof.Repair.Sections
import Reproof.Repair.Statuses
import Reproof.Repair.Workers
import Reproof.Repair.Writes
import Reproof.Scenarios.Predicates
import Reproof.Simple.Hierarchy
import Reproof.Simple.Locator
import Reproof.Simple.Resplit
import Reproof.Simple.TreeDigest
import Reproof.Simple.WorkCopy
import Reproof.Repair.Diagnostics.Derived
import Reproof.Library.Disk
import Reproof.Live.Frames.Spool
import Reproof.Live.Frames.Lifetime
import Reproof.Live.Frames.Staging
import Reproof.Live.Frames.Recovery
import Reproof.Live.Frames.Histories
import Reproof.Live.Frames.Charges
