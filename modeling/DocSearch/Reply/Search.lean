import DocSearch.Query.Document
import DocSearch.Reply.Diagnosis

/-!
# Replies to searches and aggregations

A reply that reports no failure gives its hits, and for an aggregation the buckets, which are
nested one level deeper if the aggregation was filtered.
-/
namespace DocSearch.Reply

/-- Hits, and the buckets if the backend sent any. -/
structure Aggregated where
  hits : Hits
  buckets : Option Json
  deriving DecidableEq, Repr

/-- The hits that a reply holds. -/
def parseHits (reply : Json) : Except ShapeFault Hits :=
  match reply.member? "hits" with
  | none => .error .noHits
  | some container => (Hits.ofJson container).mapError .malformedHits

/-- The hits of a search reply. -/
def searchHits (reply : Json) : Except Failure Hits := do
  checkComplete reply
  match parseHits reply with
  | .ok hits => return hits
  | .error fault => .error (.unexpected fault reply)

/-- The buckets of an aggregation reply: those of the filtered aggregation if there are any. -/
def buckets? (reply : Json) : Option Json := do
  let aggregations ← reply.member? "aggregations"
  let filtered :=
    (aggregations.member? GroupAggregation.filteredName).bind
      (Json.member? GroupAggregation.bucketsName)
  filtered.or (aggregations.member? GroupAggregation.bucketsName)

/-- The hits and buckets of an aggregation reply. -/
def aggregated (reply : Json) : Except Failure Aggregated := do
  checkComplete reply
  match parseHits reply with
  | .ok hits => return { hits, buckets := buckets? reply }
  | .error fault => .error (.unexpected fault reply)

end DocSearch.Reply
