import DocSearch.Proofs.Backend.Performance
import Mathlib.Logic.Function.Basic

/-!
# Writes that get lost

A backend keeps documents by their URLs and carries out every write that reaches it. An attempt is
answered, or never reaches the backend, or is carried out and its reply is lost; the last two are
failures to the client, which may try again. Other clients may write meanwhile, but elsewhere. What
a write leaves at its URL does not depend on what it finds there, so it does not matter how often
it gets through, only whether it does.
-/
namespace DocSearch

open Http

/-- The documents of a backend, by their URLs. -/
abbrev Store := Url → Option Json

/-- What a backend did about a write. -/
inductive Deed where
  | created
  | updated
  | deleted
  | notFound
  deriving DecidableEq, Repr

def Deed.word : Deed → String
  | .created => "created"
  | .updated => "updated"
  | .deleted => "deleted"
  | .notFound => "not_found"

/-- A write that reaches the backend: a deletion, or else the body is stored. -/
def Store.carryOut (s : Store) (r : Request) : Store × Deed :=
  let present := (s r.url).isSome
  if r.method = "DELETE" then
    (Function.update s r.url none, if present then .deleted else .notFound)
  else (Function.update s r.url r.body, if present then .updated else .created)

/-- What a write leaves at its URL, whatever was there. -/
def Http.Request.leaves (r : Request) : Option Json :=
  if r.method = "DELETE" then none else r.body

theorem Store.carryOut_self (s : Store) (r : Request) : (s.carryOut r).1 r.url = r.leaves := by
  rw [Store.carryOut, Request.leaves]
  split <;> exact Function.update_self r.url _ s

theorem Store.carryOut_of_ne (s : Store) (r : Request) (url : Url) (other : url ≠ r.url) :
    (s.carryOut r).1 url = s url := by
  rw [Store.carryOut]
  split <;> exact Function.update_of_ne other _ s

/-- A reply that names what was done, tells of no error, and denies a find only if there was none. -/
structure Reply.Names (reply : Json) (deed : Deed) : Prop where
  result : Reply.result? reply = some deed.word
  noError : Reply.error? reply = none
  noDenial : (reply.member? "found").bind Json.toBool? = some false → deed = .notFound

/-- A reply that names a deed counts as an acknowledgement if the word for the deed does. -/
theorem Reply.isAcknowledged_of_names (reply : Json) (deed : Deed) (named : Names reply deed)
    (listed : doneResults.contains deed.word = true) : isAcknowledged reply = true := by
  have done : result? reply = some deed.word := named.result
  simp only [isAcknowledged, named.noError, done, Option.any_some, listed, Option.isNone_none,
    Bool.or_true, Bool.and_true]

/-- The responses to writes. -/
structure Responder where
  respond : Deed → Response
  names : ∀ deed, ∃ reply, readReply (respond deed) = .ok reply ∧ Reply.Names reply deed

/-- How an attempt fares. -/
inductive Fate where
  | answered
  | undelivered (failure : TransportFailure)
  | lost (failure : TransportFailure)
  deriving DecidableEq, Repr

namespace Fate

def isDelivered : Fate → Bool
  | .answered | .lost _ => true
  | .undelivered _ => false

def isLost : Fate → Bool
  | .lost _ => true
  | .answered | .undelivered _ => false

/-- What the client sees of an attempt, given the response of the backend if it is reached. -/
def outcome (answer : Response) : Fate → Outcome
  | .answered => .response answer
  | .undelivered failure | .lost failure => .failure failure

end Fate

/-- What a write to a URL meets: the documents at first, how its attempts fare, and what other
clients write meanwhile, which is never to this URL. -/
structure Circumstances (url : Url) where
  store : Store
  responder : Responder
  fate : Nat → Fate
  others : Nat → Store → Store
  elsewhere : ∀ n s, others n s url = s url
  draw : Nat → UInt64

namespace Circumstances

/-- The documents as an attempt finds them. -/
def storeBefore (r : Request) (x : Circumstances r.url) : Nat → Store
  | 0 => x.store
  | n + 1 => x.others n
    (if (x.fate n).isDelivered then ((x.storeBefore r n).carryOut r).1 else x.storeBefore r n)

/-- The response to an attempt that reaches the backend. -/
def answer (r : Request) (x : Circumstances r.url) (n : Nat) : Response :=
  x.responder.respond ((x.storeBefore r n).carryOut r).2

/-- The course of a call that writes. -/
def course (r : Request) (x : Circumstances r.url) : Course where
  outcome n := (x.fate n).outcome (x.answer r n)
  draw := x.draw

variable (r : Request) (x : Circumstances r.url)

/-- How many of the first `n` attempts got through. -/
def deliveries {url : Url} (x : Circumstances url) (n : Nat) : Nat :=
  (List.range n).countP fun i => (x.fate i).isDelivered

theorem deliveries_succ {url : Url} (x : Circumstances url) (n : Nat) :
    x.deliveries (n + 1) = x.deliveries n + (x.fate n).isDelivered.toNat := by
  rw [deliveries, List.range_succ, List.countP_append]
  cases delivered : (x.fate n).isDelivered <;> simp [deliveries, delivered]

theorem deliveries_le {url : Url} (x : Circumstances url) (n : Nat) : x.deliveries n ≤ n := by
  have counted := List.countP_le_length (p := fun i => (x.fate i).isDelivered) (l := List.range n)
  rwa [List.length_range] at counted

theorem deliveries_eq_zero_iff {url : Url} (x : Circumstances url) (n : Nat) :
    x.deliveries n = 0 ↔ ∀ i < n, (x.fate i).isDelivered = false := by
  simp [deliveries, List.countP_eq_zero]

/-- The entry at the URL of a write is the old one until an attempt gets through, and then what the
write leaves, however many follow. -/
theorem entry_before (n : Nat) :
    x.storeBefore r n r.url = if x.deliveries n = 0 then x.store r.url else r.leaves := by
  induction n with
  | zero => rfl
  | succ n ih =>
    rw [storeBefore, x.elsewhere, x.deliveries_succ]
    cases delivered : (x.fate n).isDelivered with
    | true =>
      rw [if_pos rfl, Store.carryOut_self, if_neg]
      exact Nat.succ_ne_zero _
    | false => exact ih

/-- An entry elsewhere changes only if another client changes it. -/
theorem elsewhere_before (url : Url) (other : url ≠ r.url)
    (untouched : ∀ i s, x.others i s url = s url) (n : Nat) :
    x.storeBefore r n url = x.store url := by
  induction n with
  | zero => rfl
  | succ n ih =>
    rw [storeBefore, untouched]
    split
    · rw [Store.carryOut_of_ne _ _ _ other, ih]
    · exact ih

/-- An attempt after which the call goes on was not answered. -/
theorem isDelivered_of_unsettled (n : Nat)
    (unsettled : ((x.course r).outcome n).settles = false) :
    (x.fate n).isDelivered = (x.fate n).isLost := by
  cases fate : x.fate n with
  | answered => simp [course, fate, Fate.outcome, Outcome.settles] at unsettled
  | undelivered failure => rfl
  | lost failure => rfl

end Circumstances

namespace SearchClient

theorem request_eq_ok (method uri : String) (body : Option Json) (made : Request)
    (prepared : request method uri body = .ok made) : made.method = method ∧ made.body = body := by
  obtain ⟨url, -, same⟩ := (bind_eq_ok_iff _ _ _).mp ((mapError_eq_ok_iff _ _ _).mp prepared)
  obtain rfl := Except.ok.inj same
  exact ⟨rfl, rfl⟩

variable {α : Type} (c : SearchClient) (exchange : Exchange α)
  (x : Circumstances exchange.request.url) (looks : List Bool)

/-- The result of a write is read off the reply to its last attempt, which names what the backend
did, or tells how that attempt failed. -/
theorem perform_write_eq (result : Except SearchError α)
    (ended : (c.perform (x.course exchange.request) (.ok exchange) looks).result? = some result) :
    let last := (x.course exchange.request).retries c.config.http.retry
    match x.fate last with
    | .answered => ∃ reply,
      Reply.Names reply ((x.storeBefore exchange.request last).carryOut exchange.request).2 ∧
        result = (exchange.read reply).mapError .reply
    | .undelivered failure | .lost failure =>
      result = .error (.http (.transport failure (.ofNat (last + 1)) exchange.request)) := by
  intro last
  obtain ⟨concluded, called, rfl⟩ := Option.map_eq_some_iff.mp ended
  have read_off : concluded = conclusion exchange.request (.ofNat (last + 1))
      ((x.fate last).outcome (x.answer exchange.request last)) :=
    (x.course exchange.request).execute_eq_conclusion _ _ _ _ called
  rw [read_off]
  cases x.fate last with
  | undelivered failure => rfl
  | lost failure => rfl
  | answered =>
    obtain ⟨reply, read, named⟩ := x.responder.names
      ((x.storeBefore exchange.request last).carryOut exchange.request).2
    refine ⟨reply, named, ?_⟩
    show exchange.conclude (readReply (x.answer exchange.request last)) = _
    rw [Circumstances.answer, read]
    rfl

end SearchClient
end DocSearch
