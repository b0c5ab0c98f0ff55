import DocSearch.Proofs.Backend.Delivery
import DocSearch.Proofs.Backend.DocumentAddress
import DocSearch.Proofs.Reply.Completeness

/-!
# What a deletion tells

A deletion that is answered says of the store what its own earlier attempts have left of it: the
document was there at first, unless one of them got through and its reply was lost.
-/
namespace DocSearch

open Http

namespace Circumstances

variable (r : Request) (x : Circumstances r.url)

/-- A document is still there as long as no deletion got through. -/
theorem present_before_iff (deletes : r.method = "DELETE") (n : Nat) :
    (x.storeBefore r n r.url).isSome = true ↔
      (x.store r.url).isSome = true ∧ ∀ i < n, (x.fate i).isDelivered = false := by
  have gone : r.leaves = none := if_pos deletes
  rw [x.entry_before, gone, ← x.deliveries_eq_zero_iff]
  split
  next undelivered => simp [undelivered]
  next delivered => simp [delivered]

/-- A deletion does what the documents it finds make of it. -/
theorem deed_of_deletion (deletes : r.method = "DELETE") (n : Nat) :
    ((x.storeBefore r n).carryOut r).2 =
      if (x.storeBefore r n r.url).isSome then .deleted else .notFound := by
  rw [Store.carryOut, if_pos deletes]

/-- The last attempt of a deletion finds the document unless an earlier one lost its reply. -/
theorem present_before_last_iff (deletes : r.method = "DELETE") (policy : RetryPolicy) :
    let last := (x.course r).retries policy
    (x.storeBefore r last r.url).isSome = true ↔
      (x.store r.url).isSome = true ∧ ¬ ∃ i < last, (x.fate i).isLost = true := by
  intro last
  have same : ∀ i < last, (x.fate i).isDelivered = (x.fate i).isLost := by
    intro i early
    exact x.isDelivered_of_unsettled r i ((x.course r).not_settles_of_lt policy i early).1
  rw [x.present_before_iff r deletes]
  refine and_congr_right fun _ => ?_
  constructor
  · rintro none ⟨i, early, lost⟩
    rw [← same i early, none i early] at lost
    cases lost
  · intro none i early
    rw [same i early, Bool.eq_false_iff]
    exact fun lost => none ⟨i, early, lost⟩

end Circumstances

namespace Reply

/-- The result of a deletion is read off the name of what was done. -/
theorem deleted_of_names (reply : Json) (existed : Bool)
    (named : Names reply (if existed then .deleted else .notFound)) :
    deleted reply = .ok existed := by
  have unfailed : checkError reply = .ok () := (checkError_eq_ok_iff reply).mpr named.noError
  rw [deleted, unfailed]
  cases existed with
  | false =>
    have missing : result? reply = some "not_found" := named.result
    have gone : saysMissing reply = true := by simp [saysMissing, missing]
    exact if_pos gone
  | true =>
    have done : result? reply = some "deleted" := named.result
    have undenied : (reply.member? "found").bind Json.toBool? ≠ some false :=
      fun denied => absurd (named.noDenial denied) (by decide)
    have there : ¬ saysMissing reply = true := by simp [saysMissing, undenied, done]
    have acknowledged := isAcknowledged_of_names reply _ named rfl
    exact (if_neg there).trans (if_pos (by simp [acknowledged]))

end Reply

namespace SearchClient

variable (c : SearchClient) (id : String)

theorem delete_eq_ok (exchange : Exchange Bool) (prepared : c.delete id = .ok exchange) :
    exchange.request.method = "DELETE" ∧ exchange.read = Reply.deleted := by
  obtain ⟨request, made, built⟩ := (bind_eq_ok_iff _ _ _).mp prepared
  obtain rfl := Except.ok.inj built
  exact ⟨(request_eq_ok _ _ _ request made).1, rfl⟩

section
variable {exchange : Exchange Bool} (prepared : c.delete id = .ok exchange)
  (x : Circumstances exchange.request.url) (looks : List Bool)
include prepared

/-- The result of a deletion is what the last attempt found, or how it failed. -/
theorem perform_delete_eq (result : Except SearchError Bool)
    (ended : (c.perform (x.course exchange.request) (c.delete id) looks).result? = some result) :
    let last := (x.course exchange.request).retries c.config.http.retry
    result = match x.fate last with
      | .answered => .ok (x.storeBefore exchange.request last exchange.request.url).isSome
      | .undelivered failure | .lost failure =>
        .error (.http (.transport failure (.ofNat (last + 1)) exchange.request)) := by
  intro last
  obtain ⟨deletes, reads⟩ := c.delete_eq_ok id exchange prepared
  rw [prepared] at ended
  have read_off := c.perform_write_eq exchange x looks result ended
  cases fate : x.fate last with
  | undelivered failure => simpa only [last, fate] using read_off
  | lost failure => simpa only [last, fate] using read_off
  | answered =>
    simp only [last, fate] at read_off
    obtain ⟨reply, named, rfl⟩ := read_off
    rw [x.deed_of_deletion exchange.request deletes] at named
    rw [reads, Reply.deleted_of_names reply _ named]
    rfl

/-- The result of a deletion that is answered tells what its own earlier attempts have left: the
document was there at first, and none of them got through and lost its reply. So it is the truth
about the documents at first unless the document was there and such a reply was lost. -/
theorem deletion_truthful_unless_reply_lost (existed : Bool)
    (ended : (c.perform (x.course exchange.request) (c.delete id) looks).result?
      = some (.ok existed)) :
    let sends := (c.perform (x.course exchange.request) (c.delete id) looks).sends
    let present := (x.store exchange.request.url).isSome = true
    let replyLost := ∃ i, i + 1 < sends.length ∧ (x.fate i).isLost = true
    x.fate (sends.length - 1) = .answered ∧
      (existed = true ↔ present ∧ ¬ replyLost) ∧
      ((existed = true ↔ present) ↔ ¬ (present ∧ replyLost)) := by
  intro sends present replyLost
  obtain ⟨deletes, -⟩ := c.delete_eq_ok id exchange prepared
  have result := c.perform_delete_eq id prepared x looks _ ended
  let last := (x.course exchange.request).retries c.config.http.retry
  have counted : sends.length = last + 1 := by
    rw [prepared] at ended
    have sent := c.sends_of_ended (x.course exchange.request) exchange looks _ ended
    simp only [sends, prepared, sent, List.length_replicate, last]
  have answered : x.fate last = .answered := by
    cases fate : x.fate last with
    | answered => rfl
    | undelivered failure => simp [last, fate] at result
    | lost failure => simp [last, fate] at result
  have found : existed = (x.storeBefore exchange.request last exchange.request.url).isSome := by
    simpa [last, answered] using result
  have lost : replyLost ↔ ∃ i < last, (x.fate i).isLost = true := by
    simp only [replyLost, counted, Nat.add_lt_add_iff_right]
  have read : existed = true ↔ present ∧ ¬ replyLost := by
    rw [found, lost]
    exact x.present_before_last_iff exchange.request deletes c.config.http.retry
  refine ⟨?_, read, ?_⟩
  · rw [counted]
    exact answered
  · rw [read, and_iff_left_iff_imp, not_and]

end

/-- Says what was done and no more. -/
def terse : Responder where
  respond deed := ⟨200, Utf8.encode (Json.object [("result", .string deed.word)]).compact⟩
  names deed := by
    refine ⟨.object [("result", .string deed.word)], ?_, ⟨rfl, rfl, by rintro ⟨⟩⟩⟩
    cases deed <;> decide +kernel

/-- Deletes the document `simba`. -/
def simba : Exchange Bool where
  request := { method := "DELETE", url := lions.locator.documentAddress "simba" }
  read := Reply.deleted

/-- Every document is there, and the second attempt to delete `simba` is answered. -/
def answeredAfter (first : Fate) : Circumstances simba.request.url where
  store _ := some (.object [])
  responder := terse
  fate n := if n = 0 then first else .answered
  others _ s := s
  elsewhere _ _ := rfl
  draw _ := 0

/-- So ends the deletion, looked at until its second attempt is over. -/
def deletedAfter (first : Fate) : Performance Bool :=
  lions.perform ((answeredAfter first).course simba.request) (lions.delete "simba")
    [true, true, true]

theorem delete_simba : lions.delete "simba" = .ok simba := lions.delete_eq lions_isPlain "simba"

/-- A deletion whose first attempt never arrived tells the truth. -/
theorem deletedAfter_undelivered :
    let timeout : TransportFailure := ⟨.timeout, "no answer"⟩
    lions.delete "simba" = .ok simba ∧
    (deletedAfter (.undelivered timeout)).result? = some (.ok true) ∧
    ((answeredAfter (.undelivered timeout)).store simba.request.url).isSome = true := by
  intro timeout
  have ended : (deletedAfter (.undelivered timeout)).result? = some (.ok true) := by
    rw [deletedAfter, delete_simba]
    decide +kernel
  obtain ⟨-, read, -⟩ := lions.deletion_truthful_unless_reply_lost "simba" delete_simba
    (answeredAfter (.undelivered timeout)) [true, true, true] true ended
  exact ⟨delete_simba, ended, (read.mp rfl).1⟩

/-- A deletion whose first attempt arrived and lost its reply calls the document missing. -/
theorem deletedAfter_lost :
    let timeout : TransportFailure := ⟨.timeout, "no answer"⟩
    lions.delete "simba" = .ok simba ∧
    (deletedAfter (.lost timeout)).result? = some (.ok false) ∧
    ((answeredAfter (.lost timeout)).store simba.request.url).isSome = true := by
  intro timeout
  refine ⟨delete_simba, ?_, rfl⟩
  rw [deletedAfter, delete_simba]
  decide +kernel

end SearchClient
end DocSearch
