import DocSearch.Proofs.Backend.Deletion

/-!
# What replayed writes leave behind

A write may be carried out never, once or many times before its result is known. One that succeeds
has left its entry at its URL. One that fails has left either that or what was there before, never
anything else. No other entry changes, and the backend is reached at most as often as the policy
counts attempts.
-/
namespace DocSearch

open Http

/-- What has become of a write that would leave `entry` at its URL, once it has ended with `result`
after so many attempts. -/
structure Circumstances.Settles {α : Type} (r : Request) (x : Circumstances r.url)
    (policy : RetryPolicy) (attempts : Nat) (entry : Option Json)
    (result : Except SearchError α) : Prop where
  answered : (∃ value, result = .ok value) ↔ x.fate (attempts - 1) = .answered
  succeeded : ∀ value, result = .ok value → x.storeBefore r attempts r.url = entry
  /-- The entry is the old one, or as after one write that was carried out. -/
  failed : ∀ error, result = .error error →
    x.storeBefore r attempts r.url = x.store r.url ∨
      x.storeBefore r attempts r.url = (x.store.carryOut r).1 r.url
  /-- An entry that no other client touches stays as it is. -/
  elsewhere : ∀ url, url ≠ r.url → (∀ i s, x.others i s url = s url) →
    x.storeBefore r attempts url = x.store url
  bounded : x.deliveries attempts ≤ policy.maxAttempts.toNat

namespace Reply

/-- The reply to a document that was stored acknowledges it. -/
theorem indexed_of_names (reply : Json) (deed : Deed) (named : Names reply deed)
    (stored : deed = .created ∨ deed = .updated) : indexed reply = .ok reply := by
  have unfailed : checkError reply = .ok () := (checkError_eq_ok_iff reply).mpr named.noError
  have listed : doneResults.contains deed.word = true := by
    rcases stored with rfl | rfl <;> rfl
  rw [indexed, unfailed]
  exact if_pos (isAcknowledged_of_names reply deed named listed)

end Reply

namespace SearchClient

/-- A write that is refused sends nothing; any other one settles its entry, whatever becomes of its
attempts. -/
structure Replays {α : Type} (c : SearchClient) (operation : Except SearchError (Exchange α))
    (entry : Option Json) : Prop where
  refused : ∀ error, operation = .error error → ∀ w looks,
    c.perform w operation looks = { sends := [], result? := some (.error error) }
  ended : ∀ exchange, operation = .ok exchange →
    ∀ (x : Circumstances exchange.request.url) looks result,
      (c.perform (x.course exchange.request) operation looks).result? = some result →
      x.Settles exchange.request c.config.http.retry
        (c.perform (x.course exchange.request) operation looks).sends.length entry result

variable (c : SearchClient)

theorem index_eq_ok (id : String) (doc : Json) (exchange : Exchange Json)
    (prepared : c.index id doc = .ok exchange) :
    exchange.request.method = "PUT" ∧ exchange.request.body = some doc ∧
      exchange.read = Reply.indexed := by
  obtain ⟨request, made, built⟩ := (bind_eq_ok_iff _ _ _).mp prepared
  obtain rfl := Except.ok.inj built
  obtain ⟨method, body⟩ := request_eq_ok _ _ _ request made
  exact ⟨method, body, rfl⟩

/-- A write whose replies are accepted settles what it leaves. -/
theorem settles_of_ended {α : Type} (exchange : Exchange α)
    (accepts : ∀ (s : Store) reply, Reply.Names reply (s.carryOut exchange.request).2 →
      ∃ value, exchange.read reply = .ok value)
    (room : c.config.http.retry.maxRetries.toNat < UInt32.size - 1)
    (x : Circumstances exchange.request.url) (looks : List Bool) (result : Except SearchError α)
    (ended : (c.perform (x.course exchange.request) (.ok exchange) looks).result? = some result) :
    x.Settles exchange.request c.config.http.retry
      (c.perform (x.course exchange.request) (.ok exchange) looks).sends.length
      exchange.request.leaves result := by
  let last := (x.course exchange.request).retries c.config.http.retry
  have counted : (c.perform (x.course exchange.request) (.ok exchange) looks).sends.length
      = last + 1 := by
    rw [c.sends_of_ended (x.course exchange.request) exchange looks result ended,
      List.length_replicate]
  have read_off := c.perform_write_eq exchange x looks result ended
  have entry := x.entry_before exchange.request (last + 1)
  have answered : (∃ value, result = .ok value) ↔ x.fate last = .answered := by
    cases fate : x.fate last with
    | undelivered failure =>
      simp only [last, fate] at read_off
      simp [read_off]
    | lost failure =>
      simp only [last, fate] at read_off
      simp [read_off]
    | answered =>
      simp only [last, fate] at read_off
      obtain ⟨reply, named, rfl⟩ := read_off
      obtain ⟨value, read⟩ := accepts _ reply named
      simp only [iff_true]
      exact ⟨value, by rw [read]; rfl⟩
  rw [counted]
  refine ⟨answered, ?_, ?_, ?_, ?_⟩
  · intro value succeeded
    have delivered : (x.fate last).isDelivered = true := by
      rw [answered.mp ⟨value, succeeded⟩]
      rfl
    rw [entry, x.deliveries_succ, delivered]
    exact if_neg (Nat.succ_ne_zero _)
  · intro error failed
    rw [entry, Store.carryOut_self]
    split
    · exact .inl rfl
    · exact .inr rfl
  · intro url other untouched
    exact x.elsewhere_before exchange.request url other untouched (last + 1)
  · have reached := x.deliveries_le (last + 1)
    have bound := (x.course exchange.request).retries_le c.config.http.retry
    rw [RetryPolicy.toNat_maxAttempts]
    omega

/-- Storing a document and deleting one settle the entry at the URL they address: it is the
document, or nothing, if they succeed, and that or the old entry if they fail. All other entries
stay, and no more attempts get through than the policy counts. -/
theorem replayed_writes_settle_entry
    (room : c.config.http.retry.maxRetries.toNat < UInt32.size - 1) (id : String) :
    (∀ doc, c.Replays (c.index id doc) (some doc)) ∧ c.Replays (c.delete id) none := by
  refine ⟨fun doc => ⟨?_, ?_⟩, ⟨?_, ?_⟩⟩
  · intro error refused w looks
    rw [refused]
    rfl
  · intro exchange prepared x looks result ended
    obtain ⟨puts, body, reads⟩ := c.index_eq_ok id doc exchange prepared
    have stores : exchange.request.method ≠ "DELETE" := by
      rw [puts]
      decide
    have leaves : exchange.request.leaves = some doc := (if_neg stores).trans body
    rw [prepared] at ended ⊢
    rw [← leaves]
    refine c.settles_of_ended exchange (fun s reply named => ⟨reply, ?_⟩) room x looks result ended
    rw [reads]
    refine Reply.indexed_of_names reply _ named ?_
    rw [Store.carryOut, if_neg stores]
    by_cases present : (s exchange.request.url).isSome = true <;> simp [present]
  · intro error refused w looks
    rw [refused]
    rfl
  · intro exchange prepared x looks result ended
    obtain ⟨deletes, reads⟩ := c.delete_eq_ok id exchange prepared
    have leaves : exchange.request.leaves = none := if_pos deletes
    rw [prepared] at ended ⊢
    rw [← leaves]
    refine c.settles_of_ended exchange (fun s reply named => ?_) room x looks result ended
    rw [Store.carryOut, if_pos deletes] at named
    exact ⟨_, by rw [reads, Reply.deleted_of_names reply _ named]⟩

/-- Stores a document under the id `simba`. -/
def storing : Exchange Json where
  request := {
    method := "PUT", url := lions.locator.documentAddress "simba"
    body := some (.object [("cub", .bool true)]) }
  read := Reply.indexed

/-- A document that is stored twice, because the first reply is lost, is there in the end, and no
other entry has changed. -/
theorem stored_after_lost :
    let x : Circumstances storing.request.url := answeredAfter (.lost ⟨.timeout, "no answer"⟩)
    let operation := lions.index "simba" (.object [("cub", .bool true)])
    lions.config.http.retry.maxRetries.toNat < UInt32.size - 1 ∧
    operation = .ok storing ∧
    (lions.perform (x.course storing.request) operation [true, true, true]).result? =
      some (.ok (.object [("result", .string "updated")])) ∧
    x.storeBefore storing.request 2 storing.request.url = some (.object [("cub", .bool true)]) ∧
    (∀ url, url ≠ storing.request.url →
      x.storeBefore storing.request 2 url = some (.object [])) ∧
    x.deliveries 2 ≤ 4 := by
  intro x operation
  have room : lions.config.http.retry.maxRetries.toNat < UInt32.size - 1 := by decide
  have prepared : operation = .ok storing := lions.index_eq lions_isPlain "simba" _
  have result : (lions.perform (x.course storing.request) operation [true, true, true]).result? =
      some (.ok (.object [("result", .string "updated")])) := by
    rw [prepared]
    decide +kernel
  have sent : (lions.perform (x.course storing.request) operation [true, true, true]).sends.length
      = 2 := by
    rw [prepared]
    decide +kernel
  have settled := ((lions.replayed_writes_settle_entry room "simba").1 _).ended storing prepared x
    [true, true, true] _ result
  rw [sent] at settled
  exact ⟨room, prepared, result, settled.succeeded _ rfl,
    fun url other => settled.elsewhere url other (fun _ _ => rfl), settled.bounded⟩

end SearchClient
end DocSearch
