import DocSearch.Backend.Config
import DocSearch.Http.Error
import DocSearch.Query.Compile
import DocSearch.Query.Raw
import DocSearch.Reply.Search
import DocSearch.Reply.Write

/-!
# The search client

Each operation is an exchange: one request, and the reading of its reply. Making the exchange can
fail, and then nothing is sent; sending it is the business of a call. Whatever a call gives, the
exchange turns into the result of the operation.
-/
namespace DocSearch

/-- Why an operation failed. -/
inductive SearchError where
  | usage (error : QueryError)
  | http (error : Http.Error)
  | reply (failure : Reply.Failure)
  | config (fault : ConfigFault)
  deriving DecidableEq, Repr

namespace SearchError

def message : SearchError → String
  | .usage e => "Invalid search options: " ++ e.message
  | .http e => e.message
  | .reply f => f.message
  | .config f => "Configuration error: " ++ f.message

def isTransient : SearchError → Bool
  | .http e => e.isTransient
  | _ => false

/-- The reply the error was read from, if there is one. -/
def reply? : SearchError → Option Json
  | .reply f => some f.reply
  | _ => none

end SearchError

/-- A request, and the reading of its reply. -/
structure Exchange (α : Type) where
  request : Http.Request
  read : Json → Except Reply.Failure α

/-- The result of an operation, given that of its call. -/
def Exchange.conclude {α : Type} (e : Exchange α) :
    Except Http.Error Json → Except SearchError α
  | .error error => .error (.http error)
  | .ok reply => (e.read reply).mapError .reply

/-- A client for one document type. -/
structure SearchClient where
  config : SearchConfig
  deriving DecidableEq, Repr

namespace SearchClient

/-- A client over the wire, which needs settings that it can use. -/
def create (config : SearchConfig) : Except SearchError SearchClient :=
  if config.http.areUsable then .ok { config } else .error (.http .unusableSettings)

def locator (c : SearchClient) : Locator := c.config.locator

/-- A request to the URL a text stands for. -/
def request (method : String) (uri : String) (body : Option Json) :
    Except SearchError Http.Request :=
  (Http.Request.make method uri body).mapError (.http ∘ .invalidUrl)

/-- Sends a query to the search endpoint. -/
def post {α : Type} (c : SearchClient) (q : QueryDocument)
    (read : Json → Except Reply.Failure α) : Except SearchError (Exchange α) := do
  return { request := ← request "POST" c.locator.searchUri (some q.toJson), read }

/-- Runs a query, and gives the reply as it is. -/
def execute (c : SearchClient) (q : QueryDocument) : Except SearchError (Exchange Json) :=
  c.post q .ok

/-- Searches. -/
def search (c : SearchClient) (o : SearchOptions) : Except SearchError (Exchange Reply.Hits) := do
  let q ← o.compile.mapError .usage
  c.post q Reply.searchHits

/-- Searches with the options an object describes. -/
def searchRaw (c : SearchClient) (raw : Json.Members) :
    Except SearchError (Exchange Reply.Hits) := do
  let o ← (SearchOptions.ofRaw raw).mapError .usage
  c.search o

/-- Groups documents into buckets. -/
def aggregate (c : SearchClient) (o : AggregationOptions) :
    Except SearchError (Exchange Reply.Aggregated) := do
  let q ← o.compile.mapError .usage
  c.post q Reply.aggregated

/-- Groups documents with the options an object describes. -/
def aggregateRaw (c : SearchClient) (raw : Json.Members) :
    Except SearchError (Exchange Reply.Aggregated) := do
  let o ← (AggregationOptions.ofRaw raw).mapError .usage
  c.aggregate o

/-- Stores a document under an id. -/
def index (c : SearchClient) (id : String) (doc : Json) : Except SearchError (Exchange Json) := do
  return {
    request := ← request "PUT" (c.locator.documentUri id) (some doc)
    read := Reply.indexed }

/-- Deletes the document under an id, and says whether it was there. -/
def delete (c : SearchClient) (id : String) : Except SearchError (Exchange Bool) := do
  return {
    request := ← request "DELETE" (c.locator.documentUri id) none
    read := Reply.deleted }

end SearchClient
end DocSearch
