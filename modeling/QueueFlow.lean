import QueueFlow.Transactions.Obedience
import QueueFlow.Transactions.Provenance
import QueueFlow.Transactions.RowHistory
import QueueFlow.App.Api
import QueueFlow.Data.Soundness
import QueueFlow.Concurrency.DoubleCall
import QueueFlow.Concurrency.EventLog
import QueueFlow.Concurrency.Draining
import QueueFlow.Concurrency.Idempotency
import QueueFlow.Concurrency.Numbering
import QueueFlow.Conduct.Shapes
import QueueFlow.Tenancy.WriteIsolation
import QueueFlow.Concurrency.KeyBinding
import QueueFlow.Concurrency.Milestones
import QueueFlow.Concurrency.NoShows
import QueueFlow.Conduct.Atomic
import QueueFlow.Concurrency.Errors
import QueueFlow.Concurrency.CallTimes
import QueueFlow.Concurrency.Alone
import QueueFlow.Concurrency.Episodes
import QueueFlow.Concurrency.StatusChain
import QueueFlow.Concurrency.Timestamps
import QueueFlow.Concurrency.Replays
import QueueFlow.Concurrency.Cleanup
import QueueFlow.Tenancy.Visitors
import QueueFlow.Concurrency.QueueNumbers
import QueueFlow.Concurrency.NumberOrder
import QueueFlow.Concurrency.Completion
import QueueFlow.Concurrency.Notices
import QueueFlow.Concurrency.Snapshots
import QueueFlow.Concurrency.SignageStream
import QueueFlow.Concurrency.DisplayNumbers
import QueueFlow.Tenancy.Visibility
import QueueFlow.Tenancy.Management
import QueueFlow.Tenancy.Auditing
import QueueFlow.Concurrency.KpiIntervals
import QueueFlow.Reading.Buckets
import QueueFlow.Reading.Paging
import QueueFlow.Reading.Suggestions
import QueueFlow.Reading.Frames
import QueueFlow.Reading.Heartbeats
import QueueFlow.Concurrency.LostRaces
import QueueFlow.Concurrency.KioskCreation
import QueueFlow.Tenancy.ReadIsolation
import QueueFlow.Concurrency.Progress
import QueueFlow.Concurrency.Buttons
import QueueFlow.Concurrency.Honesty
import QueueFlow.Reading.Resume
import QueueFlow.Concurrency.ServiceDesk
import QueueFlow.Concurrency.PassedOver
import QueueFlow.Concurrency.Board
import QueueFlow.Concurrency.Permanence
import QueueFlow.Concurrency.SameBody
