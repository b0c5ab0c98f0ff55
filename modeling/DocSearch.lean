import DocSearch.Text.Utf8
import DocSearch.Text.Case.Lower
import DocSearch.Text.Blank
import DocSearch.Text.Quoted
import DocSearch.Text.Numeral
import DocSearch.Number.Binary64
import DocSearch.Number.Decimal
import DocSearch.Number.Shortest
import DocSearch.Number.Word
import DocSearch.Json.Value
import DocSearch.Json.Text
import DocSearch.Json.Reader
import DocSearch.Query.Raw
import DocSearch.Query.Compile
import DocSearch.Reply.Search
import DocSearch.Reply.Write
import DocSearch.Backend.Locator
import DocSearch.Url.Error
import DocSearch.Url.Ipv4
import DocSearch.Url.Ipv6
import DocSearch.Url.Parse
import DocSearch.Http.Rehearsal
import DocSearch.Http.Scheme
import DocSearch.Backend.Client
import DocSearch.Proofs.Http.Course
import DocSearch.Proofs.Http.Settling
import DocSearch.Proofs.Backend.DocumentAddress
import DocSearch.Proofs.Http.Cancellation
import DocSearch.Proofs.Query.Grammar
import DocSearch.Proofs.Query.Meaning
import DocSearch.Proofs.Query.Refusal
import DocSearch.Proofs.Http.Rehearsal
import DocSearch.Proofs.Reply.Completeness
import DocSearch.Proofs.Backend.QueryStages
import DocSearch.Proofs.Backend.Deletion
import DocSearch.Proofs.Http.AttemptCount
import DocSearch.Proofs.Backend.Replay
import DocSearch.Proofs.Reply.Buckets
import DocSearch.Proofs.Reply.HitGrammar
import DocSearch.Proofs.Json.Same
import DocSearch.Proofs.Query.Agreement
import DocSearch.Proofs.Query.Building
import DocSearch.Proofs.Query.Shape
import DocSearch.Proofs.Http.Sharing
import DocSearch.Proofs.Query.FieldChange
import DocSearch.Proofs.Http.Backoff
import DocSearch.Proofs.Query.GivenOptions
import DocSearch.Proofs.Text.Case
import DocSearch.Proofs.Query.Casing
import DocSearch.Proofs.Json.Grammar
import DocSearch.Proofs.Json.Scalars
import DocSearch.Proofs.Json.RoundTrip
import DocSearch.Proofs.Http.ReplyBody
import DocSearch.Proofs.Backend.WriteOutcomes
import DocSearch.Proofs.Backend.ErrorReasons
import DocSearch.Proofs.Query.PageOptions
import DocSearch.Proofs.Query.Pages
import DocSearch.Proofs.Backend.Environment
