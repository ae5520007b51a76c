import ContentService.Http.Service
import ContentService.Json.Writer
import ContentService.Memory
import ContentService.ObjectStorage
import ContentService.Publisher
import ContentService.Sql.Database
import ContentService.Sql.Migration
import ContentService.Sql.Stores
import ContentService.Proofs.Content.Interleaving
import ContentService.Proofs.Query.Paging
import ContentService.Proofs.Transcript
import ContentService.Proofs.Store.Conversation
import ContentService.Proofs.Media.Key
import ContentService.Proofs.Store.Quiet
import ContentService.Proofs.Surroundings
import ContentService.Proofs.Operation
import ContentService.Proofs.Service
import ContentService.Proofs.Outcome
import ContentService.Proofs.Store.Arrangement
import ContentService.Proofs.Store.Twins
import ContentService.Proofs.Agreement
import ContentService.Proofs.Store.Keeping
import ContentService.Proofs.Store.Server
import ContentService.Proofs.Store.Safe
import ContentService.Proofs.Store.Requests
import ContentService.Proofs.Store.Concurrency
import ContentService.Proofs.Store.Media
import ContentService.Proofs.Media.Custody
import ContentService.Proofs.Media.Place
import ContentService.Proofs.Media.Whereabouts
import ContentService.Proofs.Content.Valid
import ContentService.Proofs.Content.Acceptance
import ContentService.Proofs.Store.Faultless
import ContentService.Proofs.Overlooked
import ContentService.Proofs.Verdict
import ContentService.Proofs.Independence
import ContentService.Proofs.Content.Growth
import ContentService.Proofs.Content.Restoration
import ContentService.Proofs.Query.Ranges
import ContentService.Proofs.RoundTrip
import ContentService.Proofs.Calendar.DayCount
import ContentService.Proofs.Calendar.Zones
import ContentService.Proofs.Query.WrittenTimes
import ContentService.Proofs.Query.Comparisons
import ContentService.Proofs.Query.CalendarPrefixes
import ContentService.Proofs.Text.Lowering
import ContentService.Proofs.Query.IgnoringCase
import ContentService.Proofs.Content.Slugs
import ContentService.Proofs.Content.Submissions
import ContentService.Proofs.FieldErrors
import ContentService.Proofs.Content.Refusals
import ContentService.Proofs.Store.Listing
import ContentService.Proofs.Media.Names
import ContentService.Proofs.Media.Uploads
import ContentService.Proofs.Media.Paths
import ContentService.Proofs.SlugCheck
import ContentService.Proofs.Query.SortKeys
import ContentService.Proofs.Content.SlugParts
import ContentService.Proofs.Query.PeriodTexts
import ContentService.Proofs.Query.Sizes
import ContentService.Proofs.Content.SlugLength
import ContentService.Proofs.Content.Suggestions
import ContentService.Proofs.Http.BodyLimit
