import DocSearch.Backend.Client
import DocSearch.Proofs.Http.Rehearsal
import DocSearch.Proofs.Http.ReplyBody
import DocSearch.Proofs.Result

/-!
# What operations come to

An operation that is refused has its result at once and sends nothing. Any other one makes one call
and has a result as soon as the call has one: an error of the call is passed on, a reply goes to
the reader of the operation.
-/
namespace DocSearch

namespace Http

namespace Course

theorem Carries.sends_eq {w : Course} {policy : RetryPolicy} {request : Request} {ended : Nat}
    {c : Call} (h : w.Carries policy request ended c) : ∀ sent ∈ c.sends, sent = request :=
  fun _ found => List.eq_of_mem_replicate (h.sends_prefix.subset found)

variable (w : Course) (policy : RetryPolicy) (request : Request)

/-- A finished call stays as it is, however often it is looked at. -/
theorem run_of_finished (c : Call) (result : Except Error Json) (stage : c.stage = .finished result)
    (looks : List Bool) : w.run c (looks.map fun isOver => .look isOver false) = c := by
  induction looks with
  | nil => rfl
  | cons isOver looks ih =>
    have still : w.step c (.look isOver false) = c := c.look_finished stage
    rw [List.map_cons, run_cons, still, ih]

theorem execute_append (looks more : List Bool)
    (finished : (w.execute policy request looks).result?.isSome = true) :
    w.execute policy request (looks ++ more) = w.execute policy request looks := by
  rw [execute, List.map_append, run_append]
  cases stage : (w.execute policy request looks).stage with
  | finished result => exact w.run_of_finished _ result stage more
  | _ => simp [Call.result?, stage] at finished

/-- A reply that a call ends with was read from the response of the last attempt. -/
theorem execute_answered (looks : List Bool) (reply : Json)
    (ended : (w.execute policy request looks).result? = some (.ok reply)) :
    ∃ response, w.outcome (w.retries policy) = .response response ∧
      readReply response = .ok reply := by
  have concluded := w.execute_eq_conclusion policy request looks _ ended
  cases outcome : w.outcome (w.retries policy) with
  | failure failure =>
    rw [outcome] at concluded
    cases concluded
  | response response =>
    rw [outcome] at concluded
    exact ⟨response, rfl, concluded.symm⟩

end Course
end Http

/-- What an operation has sent, and its result once it has one. -/
structure Performance (α : Type) where
  sends : List Http.Request
  result? : Option (Except SearchError α)

namespace SearchClient

open Http

variable {α : Type} (c : SearchClient) (w : Course)

/-- The call of a request on a course, looked at so often. -/
def call (request : Request) (looks : List Bool) : Call :=
  w.execute c.config.http.retry request looks

/-- An operation on a course, looked at so often. -/
def perform (operation : Except SearchError (Exchange α)) (looks : List Bool) : Performance α :=
  match operation with
  | .error e => { sends := [], result? := some (.error e) }
  | .ok exchange =>
    { sends := (c.call w exchange.request looks).sends
      result? := (c.call w exchange.request looks).result?.map exchange.conclude }

/-- An exchange that has a result has sent its request once, and once for every retry. -/
theorem sends_of_ended (exchange : Exchange α) (looks : List Bool) (result : Except SearchError α)
    (ended : (c.perform w (.ok exchange) looks).result? = some result) :
    (c.perform w (.ok exchange) looks).sends =
      List.replicate (w.retries c.config.http.retry + 1) exchange.request := by
  obtain ⟨concluded, called, -⟩ := Option.map_eq_some_iff.mp ended
  refine w.sends_of_finished c.config.http.retry exchange.request looks ?_
  rw [call] at called
  rw [called]
  rfl

/-- An operation rehearsed with a script. -/
def rehearse (draws : UInt32 → UInt64) (script : Script)
    (operation : Except SearchError (Exchange α)) : Performance α :=
  match operation with
  | .error e => { sends := [], result? := some (.error e) }
  | .ok exchange =>
    let run := Rehearsal.run c.config.http.retry exchange.request .absent draws script
    { sends := run.call.sends, result? := run.call.result?.map exchange.conclude }

/-- A rehearsal is a performance on the course of its script, and comes to a result. -/
theorem rehearse_eq_perform (draws : UInt32 → UInt64) (script : Script)
    (operation : Except SearchError (Exchange α)) :
    ∃ looks, c.rehearse draws script operation = c.perform (script.course draws) operation looks ∧
      (c.rehearse draws script operation).result?.isSome = true := by
  cases operation with
  | error e => exact ⟨[], rfl, rfl⟩
  | ok exchange =>
    obtain ⟨-, finished, executed⟩ :=
      Rehearsal.run_follows_course c.config.http.retry exchange.request .absent draws script
    obtain ⟨looks, same, -⟩ := executed rfl
    refine ⟨looks, ?_, ?_⟩
    · simp only [rehearse, perform, call, same]
    · rw [rehearse, Option.isSome_map]
      exact finished

/-- What an exchange comes to: its performance is that of one call of its request. -/
structure Relays (exchange : Exchange α) (looks : List Bool) (performed : Performance α) :
    Prop where
  sends : performed.sends = (c.call w exchange.request looks).sends
  repeated : ∀ sent ∈ performed.sends, sent = exchange.request
  /-- There is a result exactly when all attempts and rests are over. -/
  ended : performed.result?.isSome = true ↔
    2 * w.retries c.config.http.retry + 1 ≤ looks.count true
  pending : (c.call w exchange.request looks).result? = none → performed.result? = none
  failed : ∀ error, (c.call w exchange.request looks).result? = some (.error error) →
    performed.result? = some (.error (.http error))
  isObject : ∀ reply, (c.call w exchange.request looks).result? = some (.ok reply) →
    ∃ members, reply = .object members
  answered : ∀ reply, (c.call w exchange.request looks).result? = some (.ok reply) →
    performed.result? = some ((exchange.read reply).mapError .reply)
  /-- An error that arises from a reply has the reply attached. -/
  attached : ∀ reply error, (c.call w exchange.request looks).result? = some (.ok reply) →
    performed.result? = some (.error error) → error.reply? = some reply
  /-- Nothing is sent after that. -/
  still : performed.result?.isSome = true → ∀ more,
    c.call w exchange.request (looks ++ more) = c.call w exchange.request looks

theorem relays_perform (exchange : Exchange α) (looks : List Bool)
    (carried : ∀ reply f, exchange.read reply = .error f → f.reply = reply) :
    c.Relays w exchange looks (c.perform w (.ok exchange) looks) := by
  have result : (c.perform w (.ok exchange) looks).result?
      = (c.call w exchange.request looks).result?.map exchange.conclude := rfl
  have finishes : (c.perform w (.ok exchange) looks).result?.isSome
      = (c.call w exchange.request looks).result?.isSome := Option.isSome_map
  have answered : ∀ reply, (c.call w exchange.request looks).result? = some (.ok reply) →
      (c.perform w (.ok exchange) looks).result?
        = some ((exchange.read reply).mapError .reply) := by
    intro reply replied
    rw [result, replied]
    rfl
  refine ⟨rfl, ?_, ?_, ?_, ?_, ?_, answered, ?_, ?_⟩
  · exact (w.carries_execute c.config.http.retry exchange.request looks).sends_eq
  · rw [finishes]
    exact w.execute_finished_iff c.config.http.retry exchange.request looks
  · intro pending
    rw [result, pending]
    rfl
  · intro error failed
    rw [result, failed]
    rfl
  · intro reply replied
    obtain ⟨response, -, read⟩ :=
      w.execute_answered c.config.http.retry exchange.request looks reply replied
    exact readReply_eq_ok response reply read
  · intro reply error replied failed
    rw [answered reply replied] at failed
    obtain ⟨f, refused, rfl⟩ := (mapError_eq_error_iff _ _ _).mp (Option.some.inj failed)
    rw [SearchError.reply?, carried reply f refused]
  · intro finished more
    rw [finishes] at finished
    exact w.execute_append c.config.http.retry exchange.request looks more finished

end SearchClient
end DocSearch
