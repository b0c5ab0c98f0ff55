import DocSearch.Proofs.Backend.Performance
import DocSearch.Proofs.Reply.Completeness

/-!
# The stages of a query

A query with raw options is read, compiled and addressed before it is sent. The first of these
stages that refuses ends it, and nothing is sent. Otherwise one call of one request is made, and its
reply is read in the way of the kind of query. Searches and aggregations differ in their stages
only.
-/
namespace DocSearch

/-- The stages of a kind of query: how its options are read and compiled, and how its reply is. -/
structure QueryStages (ω α : Type) where
  ofRaw : Json.Members → Except QueryError ω
  compile : ω → Except QueryError QueryDocument
  read : Json → Except Reply.Failure α

def searchStages : QueryStages SearchOptions Reply.Hits where
  ofRaw := SearchOptions.ofRaw
  compile := SearchOptions.compile
  read := Reply.searchHits

def aggregationStages : QueryStages AggregationOptions Reply.Aggregated where
  ofRaw := AggregationOptions.ofRaw
  compile := AggregationOptions.compile
  read := Reply.aggregated

namespace QueryStages

variable {ω α : Type} (k : QueryStages ω α) (c : SearchClient) (raw : Json.Members)

/-- What the stages before the wire come to: the request to be sent, or the error of the first
stage that refuses. -/
inductive Prepares : Except SearchError Http.Request → Prop
  | unreadable {e : QueryError} (ofRaw : k.ofRaw raw = .error e) : Prepares (.error (.usage e))
  | uncompilable {o : ω} {e : QueryError} (ofRaw : k.ofRaw raw = .ok o)
      (compile : k.compile o = .error e) : Prepares (.error (.usage e))
  | unaddressed {o : ω} {q : QueryDocument} {e : UrlError} (ofRaw : k.ofRaw raw = .ok o)
      (compile : k.compile o = .ok q) (parse : Url.parse c.locator.searchUri.toList = .error e) :
      Prepares (.error (.http (.invalidUrl e)))
  | ready {o : ω} {q : QueryDocument} {url : Url} (ofRaw : k.ofRaw raw = .ok o)
      (compile : k.compile o = .ok q) (parse : Url.parse c.locator.searchUri.toList = .ok url) :
      Prepares (.ok { method := "POST", url, body := some q.toJson })

/-- The query as an operation of the client. -/
def operation : Except SearchError (Exchange α) := do
  let o ← (k.ofRaw raw).mapError .usage
  let q ← (k.compile o).mapError .usage
  c.post q k.read

/-- The request of a query, if the address of the search endpoint can be read. -/
theorem post_eq (q : QueryDocument) :
    c.post q k.read = ((Url.parse c.locator.searchUri.toList).mapError (.http ∘ .invalidUrl)).map
      fun url => { request := { method := "POST", url, body := some q.toJson }, read := k.read } := by
  rw [SearchClient.post, SearchClient.request, Http.Request.make]
  cases Url.parse c.locator.searchUri.toList <;> rfl

theorem operation_of_prepares (prepared : Except SearchError Http.Request)
    (h : k.Prepares c raw prepared) :
    k.operation c raw = prepared.map fun request => { request, read := k.read } := by
  have compiled : ∀ o, k.ofRaw raw = .ok o → k.operation c raw =
      ((k.compile o).mapError .usage >>= fun q => c.post q k.read) := by
    intro o ofRaw
    rw [operation, ofRaw]
    rfl
  have posted : ∀ o q, k.ofRaw raw = .ok o → k.compile o = .ok q →
      k.operation c raw = c.post q k.read := by
    intro o q ofRaw compile
    rw [compiled o ofRaw, compile]
    rfl
  cases h with
  | unreadable ofRaw =>
    rw [operation, ofRaw]
    rfl
  | uncompilable ofRaw compile =>
    rw [compiled _ ofRaw, compile]
    rfl
  | unaddressed ofRaw compile parse =>
    rw [posted _ _ ofRaw compile, post_eq, parse]
    rfl
  | ready ofRaw compile parse =>
    rw [posted _ _ ofRaw compile, post_eq, parse]
    rfl

theorem exists_prepares : ∃ prepared, k.Prepares c raw prepared := by
  cases ofRaw : k.ofRaw raw with
  | error e => exact ⟨_, .unreadable ofRaw⟩
  | ok o =>
    cases compile : k.compile o with
    | error e => exact ⟨_, .uncompilable ofRaw compile⟩
    | ok q =>
      cases parse : Url.parse c.locator.searchUri.toList with
      | error e => exact ⟨_, .unaddressed ofRaw compile parse⟩
      | ok url => exact ⟨_, .ready ofRaw compile parse⟩

/-- An operation does what these stages say: it is refused by one of them and sends nothing, or
makes one call of the request they prepare and reads the reply in their way. Its rehearsals with
scripts are among its performances. -/
structure Describes (operation : Except SearchError (Exchange α)) : Prop where
  prepares : ∃ prepared, k.Prepares c raw prepared
  refused : ∀ error, k.Prepares c raw (.error error) → ∀ w looks,
    c.perform w operation looks = { sends := [], result? := some (.error error) }
  relayed : ∀ request, k.Prepares c raw (.ok request) → ∀ w looks,
    c.Relays w { request, read := k.read } looks (c.perform w operation looks)
  rehearsed : ∀ draws script, ∃ looks,
    c.rehearse draws script operation = c.perform (script.course draws) operation looks ∧
      (c.rehearse draws script operation).result?.isSome = true

theorem describes_operation (carried : ∀ reply f, k.read reply = .error f → f.reply = reply) :
    k.Describes c raw (k.operation c raw) where
  prepares := k.exists_prepares c raw
  refused error refused w looks := by
    rw [k.operation_of_prepares c raw _ refused]
    rfl
  relayed request ready w looks := by
    rw [k.operation_of_prepares c raw _ ready]
    exact c.relays_perform w { request, read := k.read } looks carried
  rehearsed draws script := c.rehearse_eq_perform draws script (k.operation c raw)

end QueryStages

/-- Searching and aggregating with raw options go through their stages, whatever the options, the
configuration, the outcomes of attempts and the times at which the call is looked at. -/
theorem SearchClient.raw_queries_pass_stages (c : SearchClient) (raw : Json.Members) :
    searchStages.Describes c raw (c.searchRaw raw) ∧
      aggregationStages.Describes c raw (c.aggregateRaw raw) :=
  ⟨searchStages.describes_operation c raw Reply.reply_of_searchHits_error,
    aggregationStages.describes_operation c raw Reply.reply_of_aggregated_error⟩

end DocSearch
