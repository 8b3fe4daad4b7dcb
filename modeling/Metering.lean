import Metering.Attribute
import Metering.Completion.Operations
import Metering.Exporter
import Metering.Main
import Metering.Meter
import Metering.Pipeline.Lifecycle
import Metering.Pipeline.Outline
import Metering.Proofs.Attribute.Canonical
import Metering.Proofs.Attribute.Sets
import Metering.Proofs.Completion.Actions
import Metering.Proofs.Completion.Aggregate
import Metering.Proofs.Completion.Calls
import Metering.Proofs.Completion.Cascades
import Metering.Proofs.Completion.Drain
import Metering.Proofs.Completion.FirstFailure
import Metering.Proofs.Completion.Futures
import Metering.Proofs.Completion.Passing
import Metering.Proofs.Completion.Reports
import Metering.Proofs.Completion.Steps
import Metering.Proofs.Completion.Threads
import Metering.Proofs.Completion.Wakers
import Metering.Proofs.Glob
import Metering.Proofs.Meter.Owed
import Metering.Proofs.Meter.Registration
import Metering.Proofs.Meter.Resolution
import Metering.Proofs.Meter.Selection
import Metering.Proofs.Meter.Spelling
import Metering.Proofs.Meter.Twins
import Metering.Proofs.Pipeline.Answers
import Metering.Proofs.Pipeline.Broadcast
import Metering.Proofs.Pipeline.Calls
import Metering.Proofs.Pipeline.Course
import Metering.Proofs.Pipeline.Delivery
import Metering.Proofs.Pipeline.Errands
import Metering.Proofs.Pipeline.ExportThread
import Metering.Proofs.Pipeline.Frame
import Metering.Proofs.Pipeline.Held
import Metering.Proofs.Pipeline.Incidents
import Metering.Proofs.Pipeline.Lifespan
import Metering.Proofs.Pipeline.Mailbox
import Metering.Proofs.Pipeline.Moves
import Metering.Proofs.Pipeline.Outcomes
import Metering.Proofs.Pipeline.Replies
import Metering.Proofs.Pipeline.Requests
import Metering.Proofs.Pipeline.Shutdown
import Metering.Proofs.Pipeline.Timetable
import Metering.Proofs.Provider.Callbacks
import Metering.Proofs.Provider.Changes
import Metering.Proofs.Provider.Identity
import Metering.Proofs.Provider.Interleaving
import Metering.Proofs.Provider.Isolation
import Metering.Proofs.Provider.Origins
import Metering.Proofs.Provider.Owed
import Metering.Proofs.Provider.Passes
import Metering.Proofs.Provider.Registrations
import Metering.Proofs.Provider.Renewal
import Metering.Proofs.Provider.Session
import Metering.Proofs.Provider.Stamps
import Metering.Proofs.Provider.Uninterrupted
import Metering.Proofs.Provider.Upkeep
import Metering.Proofs.Provider.WellFormed
import Metering.Proofs.Provider.Windows
import Metering.Proofs.Quantity
import Metering.Proofs.Reader.Schedule
import Metering.Proofs.Registry
import Metering.Proofs.Resource
import Metering.Proofs.Stream.Account
import Metering.Proofs.Stream.Cardinality
import Metering.Proofs.Stream.Coherence
import Metering.Proofs.Stream.Deltas
import Metering.Proofs.Stream.Generations
import Metering.Proofs.Stream.Increases
import Metering.Proofs.Stream.Limit
import Metering.Proofs.Stream.Offers
import Metering.Proofs.Stream.Overlap
import Metering.Proofs.Stream.Owed
import Metering.Proofs.Stream.Reclaim
import Metering.Proofs.Stream.Renewal
import Metering.Proofs.Stream.Reports
import Metering.Proofs.Stream.Shape
import Metering.Proofs.Stream.Steps
import Metering.Proofs.Stream.Totals
import Metering.Proofs.Stream.Twins
import Metering.Proofs.Table
import Metering.Provider.Collect
import Metering.Reader.Basic
import Metering.Registry
import Metering.Resource
import Metering.View
import Metering.Workload.Basic
