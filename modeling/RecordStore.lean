import RecordStore.Predicate.Printer
import RecordStore.Predicate.Match
import RecordStore.Session
import RecordStore.Document.Number
import RecordStore.Document.Options
import RecordStore.Main
import RecordStore.Proofs.Outcome
import RecordStore.Proofs.Sql.Grammar
import RecordStore.Proofs.Sql.Scanning
import RecordStore.Proofs.Calendar
import RecordStore.Proofs.Entry.Created
import RecordStore.Proofs.Entry.Found
import RecordStore.Proofs.Predicate.FilterText
import RecordStore.Proofs.Predicate.Modes
import RecordStore.Proofs.Session.Persistence
import RecordStore.Proofs.Predicate.Carried
import RecordStore.Proofs.Predicate.Chains
import RecordStore.Proofs.Sql.ChangeText
import RecordStore.Proofs.Predicate.Readable
import RecordStore.Proofs.Store.Private
import RecordStore.Proofs.Session.InMemory
import RecordStore.Proofs.Entry.Changed
import RecordStore.Proofs.Sql.Objections
import RecordStore.Proofs.Store.Emptied
import RecordStore.Proofs.Store.Failing
import RecordStore.Proofs.Predicate.Alike
import RecordStore.Proofs.Session.Emptied
import RecordStore.Proofs.Store.Alike
import RecordStore.Proofs.Session.Alike
import RecordStore.Proofs.Session.Logged
import RecordStore.Proofs.Sql.Parameters
import RecordStore.Proofs.Predicate.Rejections
import RecordStore.Proofs.Session.Replies
import RecordStore.Proofs.Session.Bookkeeping
import RecordStore.Proofs.Session.EarlyErrors
import RecordStore.Proofs.Session.Lifecycle
import RecordStore.Proofs.Calendar.Order
import RecordStore.Proofs.Entry.Dated
import RecordStore.Proofs.Entry.ReadBack
import RecordStore.Proofs.Sql.InsertText
import RecordStore.Proofs.Sql.Validity
import RecordStore.Proofs.Store.References
import RecordStore.Proofs.Store.Balance
import RecordStore.Proofs.Store.Enforced
import RecordStore.Proofs.Session.Moves
import RecordStore.Proofs.Session.Linked
import RecordStore.Proofs.Predicate.Skeleton
import RecordStore.Proofs.Session.Filtered
import RecordStore.Proofs.Sql.Recognized
import RecordStore.Proofs.Store.Rewriting
import RecordStore.Proofs.Store.Writes
import RecordStore.Proofs.Session.Writes
import RecordStore.Proofs.Store.Orderly
import RecordStore.Proofs.Store.Steps
import RecordStore.Proofs.Predicate.Flaws
import RecordStore.Proofs.Schema.Accepted
import RecordStore.Proofs.Session.Remembered
import RecordStore.Proofs.Logging.Starts
import RecordStore.Proofs.Document.RoundTrip
import RecordStore.Proofs.Session.Stops
