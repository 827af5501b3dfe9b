import DomainScout.Access.Session
import DomainScout.Logging.Forward
import DomainScout.Main
import DomainScout.Remote.Client
import DomainScout.Remote.Script
import DomainScout.View.Search
import DomainScout.Proofs.Sql.Content
import DomainScout.Proofs.Query.Structure
import DomainScout.Proofs.Query.Shape
import DomainScout.Proofs.Query.Placeholders
import DomainScout.Proofs.Query.Composition
import DomainScout.Proofs.Access.Desk
import DomainScout.Proofs.Access.Lobby
import DomainScout.Proofs.Check.Cache
import DomainScout.Proofs.Check.Change
import DomainScout.Proofs.Schedule.Agenda
import DomainScout.Proofs.Check.Schedule
import DomainScout.Proofs.Check.SingleFlight
import DomainScout.Proofs.Check.Work
import DomainScout.Proofs.Check.Progress
import DomainScout.Proofs.Check.Sharing
import DomainScout.Proofs.Number.Rounding
import DomainScout.Proofs.Check.Storing
import DomainScout.Proofs.Check.Recall
import DomainScout.Proofs.Host
import DomainScout.Proofs.Url.Extension
import DomainScout.Proofs.Check.Reach
import DomainScout.Proofs.Check.Resilience
import DomainScout.Proofs.Text.Case
import DomainScout.Proofs.Host.Canonical
import DomainScout.Proofs.Check.Errands
import DomainScout.Proofs.Check.Rejection
import DomainScout.Proofs.Check.Outage
import DomainScout.Proofs.Number.Range
import DomainScout.Proofs.View.Search
import DomainScout.Proofs.Sql.Statement
import DomainScout.Proofs.Store.Paging
import DomainScout.Proofs.Catalog.Role
import DomainScout.Proofs.View.Capabilities
import DomainScout.Proofs.Sql.Truth
import DomainScout.Proofs.Query.Deletion
import DomainScout.Proofs.Check.Patience
import DomainScout.Proofs.Check.GivingUp
import DomainScout.Proofs.Store.Pool
import DomainScout.Proofs.Remote.Attempt
import DomainScout.Proofs.Remote.Client
import DomainScout.Proofs.Remote.Retry
import DomainScout.Proofs.Json.Reader
import DomainScout.Proofs.Criteria.Reading
import DomainScout.Proofs.Remote.Subject
import DomainScout.Proofs.Check.Lagging
import DomainScout.Proofs.Check.Focus
import DomainScout.Proofs.Check.Isolation
import DomainScout.Proofs.Host.Decorated
import DomainScout.Proofs.Last
import DomainScout.Proofs.Check.History
import DomainScout.Proofs.Sql.Like
import DomainScout.Proofs.Query.TextFilters
import DomainScout.Proofs.View.Loading
import DomainScout.Proofs.Number.Ceiling
import DomainScout.Proofs.Store.Tiling
import DomainScout.Proofs.Catalog.Resolution
import DomainScout.Proofs.Check.Merging
import DomainScout.Proofs.Check.Awaiting
import DomainScout.Proofs.Check.Verdict
import DomainScout.Proofs.Query.TopLevel
import DomainScout.Proofs.Query.Quantity
import DomainScout.Proofs.Query.Ages
import DomainScout.Proofs.Sql.Number
import DomainScout.Proofs.Query.Computed
import DomainScout.Proofs.Readings
import DomainScout.Proofs.View.Discovery
import DomainScout.Proofs.Remote.Slots
import DomainScout.Proofs.Criteria.Accepted
import DomainScout.Proofs.Criteria.Rereading
import DomainScout.Proofs.Catalog.Growth
import DomainScout.Proofs.Query.Projection
import DomainScout.Proofs.Text.Part
import DomainScout.Proofs.Criteria.Terms
import DomainScout.Proofs.Check.SnapshotDay
import DomainScout.Proofs.Check.Callers
import DomainScout.Proofs.Command
import DomainScout.Proofs.Catalog.Reference
import DomainScout.Proofs.Query.Writing
