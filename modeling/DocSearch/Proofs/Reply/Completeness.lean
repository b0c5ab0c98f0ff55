import DocSearch.Proofs.Result
import DocSearch.Reply.Search

/-!
# What a search reply says of its completeness

A reply reports itself failed or incomplete by an error, by a positive number of failed shards, by
fewer successful shards than shards in all, or by having run out of time. Only the error and a
number of failed shards that is an unsigned integer are looked at; with any other report the hits
are returned as if they were all. A failure read from a reply carries that reply.
-/
namespace DocSearch

/-- Greater than zero. -/
def Json.Number.isPositive : Number → Bool
  | .integer n _ => 0 < n
  | .double x => !x.negative && !x.isZero

namespace Reply

/-- What a reply says of its shards. -/
def shards? (key : String) (reply : Json) : Option Json :=
  (reply.member? "_shards").bind (Json.member? key)

/-- The ways in which a reply reports itself failed or incomplete. -/
inductive ReportsFailure (reply : Json) : Prop
  | error (e : Json) (given : reply.member? "error" = some e) (nonnull : e ≠ .null)
  | shardsFailed (n : Json.Number) (given : shards? "failed" reply = some (.number n))
      (positive : n.isPositive = true)
  | shardsMissing (total successful : Int) {ht : Json.IsWord total} {hs : Json.IsWord successful}
      (all : shards? "total" reply = some (.number (.integer total ht)))
      (some : shards? "successful" reply = some (.number (.integer successful hs)))
      (fewer : successful < total)
  | timedOut (given : reply.member? "timed_out" = some (.bool true))

/-- The reports that are looked at. -/
inductive IsNoticed (reply : Json) : Prop
  | error (e : Json) (given : reply.member? "error" = some e) (nonnull : e ≠ .null)
  | shardsFailed (n : UInt64) (given : shards? "failed" reply = some (.ofUInt64 n))
      (positive : 0 < n)

/-- The reports that are not looked at. -/
inductive IsOverlooked (reply : Json) : Prop
  | fractionFailed (x : Finite64) (given : shards? "failed" reply = some (.number (.double x)))
      (positive : (Json.Number.double x).isPositive = true)
  | shardsMissing (total successful : Int) {ht : Json.IsWord total} {hs : Json.IsWord successful}
      (all : shards? "total" reply = some (.number (.integer total ht)))
      (some : shards? "successful" reply = some (.number (.integer successful hs)))
      (fewer : successful < total)
  | timedOut (given : reply.member? "timed_out" = some (.bool true))

/-- Only an unsigned integer of 64 bits is read as one. -/
theorem toUInt64?_eq_some_iff (v : Json) (n : UInt64) :
    v.toUInt64? = some n ↔ v = .ofUInt64 n := by
  constructor
  · intro read
    cases v with
    | number k =>
      cases k with
      | double x => cases read
      | integer k word =>
        simp only [Json.toUInt64?, Json.Number.toUInt64?] at read
        split at read
        next nonnegative =>
          have small : k.toNat < UInt64.size := by
            have bound := word.2
            simp only [UInt64.size]
            omega
          have same : n.toNat = k.toNat := by
            rw [← Option.some.inj read, UInt64.toNat_ofNat_of_lt' small]
          simp only [Json.ofUInt64, Json.Number.ofUInt64, same, Int.toNat_of_nonneg nonnegative]
        next => cases read
    | _ => cases read
  · rintro rfl
    simp [Json.toUInt64?, Json.ofUInt64, Json.Number.ofUInt64, Json.Number.toUInt64?]

theorem isPositive_ofUInt64 (n : UInt64) :
    (Json.Number.ofUInt64 n).isPositive = true ↔ 0 < n := by
  rw [UInt64.lt_iff_toNat_lt]
  simp [Json.Number.ofUInt64, Json.Number.isPositive]

/-- A positive integer of 64 bits is an unsigned one. -/
theorem eq_ofUInt64_of_nonneg (n : Int) (word : Json.IsWord n) (nonneg : 0 ≤ n) :
    Json.number (.integer n word) = .ofUInt64 (.ofNat n.toNat) := by
  rw [← toUInt64?_eq_some_iff]
  simp only [Json.toUInt64?, Json.Number.toUInt64?, if_pos nonneg]

/-- Every report is looked at or overlooked. -/
theorem reportsFailure_iff (reply : Json) :
    ReportsFailure reply ↔ IsNoticed reply ∨ IsOverlooked reply := by
  constructor
  · intro reported
    cases reported with
    | error e given nonnull => exact .inl (.error e given nonnull)
    | shardsFailed n given positive =>
      cases n with
      | double x => exact .inr (.fractionFailed x given positive)
      | integer n word =>
        have unsigned := eq_ofUInt64_of_nonneg n word (Int.le_of_lt (of_decide_eq_true positive))
        have number := Json.number.inj unsigned
        rw [number] at given positive
        exact .inl (.shardsFailed _ given ((isPositive_ofUInt64 _).mp positive))
    | shardsMissing total successful all some fewer =>
      exact .inr (.shardsMissing total successful all some fewer)
    | timedOut given => exact .inr (.timedOut given)
  · rintro (noticed | overlooked)
    · cases noticed with
      | error e given nonnull => exact .error e given nonnull
      | shardsFailed n given positive =>
        exact .shardsFailed (.ofUInt64 n) given ((isPositive_ofUInt64 n).mpr positive)
    · cases overlooked with
      | fractionFailed x given positive => exact .shardsFailed (.double x) given positive
      | shardsMissing total successful all some fewer =>
        exact .shardsMissing total successful all some fewer
      | timedOut given => exact .timedOut given

/-! ## What is checked -/

theorem error?_eq_none_iff (reply : Json) :
    error? reply = none ↔ ∀ e, reply.member? "error" = some e → e = .null := by
  have null : ∀ e : Json, e.isNull = true ↔ e = .null := by
    intro e
    cases e <;> simp [Json.isNull]
  simp [error?, Option.filter_eq_none_iff, null]

theorem checkError_eq_ok_iff (reply : Json) : checkError reply = .ok () ↔ error? reply = none := by
  unfold checkError
  cases error? reply <;> simp

/-- The check passes exactly the replies with none of the reports that are looked at. -/
theorem checkComplete_eq_ok_iff (reply : Json) :
    checkComplete reply = .ok () ↔ ¬ IsNoticed reply := by
  have counted : ∀ n, count? "_shards" "failed" reply = some n ↔
      shards? "failed" reply = some (.ofUInt64 n) := by
    intro n
    simp [count?, shards?, Option.bind_eq_some_iff, toUInt64?_eq_some_iff]
  have shape : checkComplete reply = .ok () ↔ checkError reply = .ok () ∧
      ¬ 0 < (count? "_shards" "failed" reply).getD 0 := by
    rw [checkComplete, bind_eq_ok_iff]
    constructor
    · rintro ⟨_, checked, passed⟩
      refine ⟨checked, fun positive => ?_⟩
      rw [if_pos positive] at passed
      cases passed
    · rintro ⟨checked, noneFailed⟩
      exact ⟨(), checked, if_neg noneFailed⟩
  rw [shape, checkError_eq_ok_iff, error?_eq_none_iff]
  constructor
  · rintro ⟨noError, noneFailed⟩ noticed
    cases noticed with
    | error e given nonnull => exact nonnull (noError e given)
    | shardsFailed n given positive =>
      rw [(counted n).mpr given] at noneFailed
      exact noneFailed positive
  · intro unnoticed
    refine ⟨fun e given => ?_, fun positive => ?_⟩
    · exact Decidable.byContradiction fun nonnull => unnoticed (.error e given nonnull)
    · cases failed : count? "_shards" "failed" reply with
      | none => simp [failed] at positive
      | some n =>
        rw [failed] at positive
        exact unnoticed (.shardsFailed n ((counted n).mp failed) positive)

/-- A reply has hits if a hit container can be read from it. -/
def HasHits (reply : Json) (hits : Hits) : Prop :=
  ∃ container, reply.member? "hits" = some container ∧ Hits.ofJson container = .ok hits

theorem parseHits_eq_ok_iff (reply : Json) (hits : Hits) :
    parseHits reply = .ok hits ↔ HasHits reply hits := by
  unfold parseHits HasHits
  cases reply.member? "hits" with
  | none => simp
  | some container => simp [mapError_eq_ok_iff]

/-! Each of the two readers checks the reply, parses its hits, and makes its own use of them. -/

section
variable {α : Type} (reply : Json) (use : Hits → α)

theorem checked_parsed_eq_ok_iff (a : α) :
    (do
      checkComplete reply
      match parseHits reply with
      | .ok hits => return use hits
      | .error fault => .error (.unexpected fault reply)) = .ok a ↔
    ¬ IsNoticed reply ∧ ∃ hits, HasHits reply hits ∧ a = use hits := by
  rw [← checkComplete_eq_ok_iff]
  simp only [← parseHits_eq_ok_iff]
  cases checkComplete reply with
  | error f => simp [bind, Except.bind]
  | ok => cases parseHits reply <;> simp [bind, Except.bind, pure, Except.pure, eq_comm]

/-- Nothing is read from a reply that does not pass the check, nor from one whose shape is at
fault. -/
theorem checked_parsed_eq_error_iff (f : Failure) :
    (do
      checkComplete reply
      match parseHits reply with
      | .ok hits => return use hits
      | .error fault => .error (.unexpected fault reply)) = .error f ↔
    checkComplete reply = .error f ∨
      (¬ IsNoticed reply ∧ ∃ fault, parseHits reply = .error fault ∧ f = .unexpected fault reply) := by
  rw [← checkComplete_eq_ok_iff]
  cases checkComplete reply with
  | error f => simp [bind, Except.bind]
  | ok => cases parseHits reply <;> simp [bind, Except.bind, pure, Except.pure, eq_comm]

end

theorem searchHits_eq_ok_iff (reply : Json) (hits : Hits) :
    searchHits reply = .ok hits ↔ ¬ IsNoticed reply ∧ HasHits reply hits := by
  refine (checked_parsed_eq_ok_iff reply id hits).trans ?_
  simp

theorem searchHits_eq_error_iff (reply : Json) (f : Failure) :
    searchHits reply = .error f ↔ checkComplete reply = .error f ∨
      (¬ IsNoticed reply ∧ ∃ fault, parseHits reply = .error fault ∧ f = .unexpected fault reply) :=
  checked_parsed_eq_error_iff reply id f

/-- The buckets are never what makes a reply fail. -/
theorem aggregated_eq_ok_iff (reply : Json) (found : Aggregated) :
    aggregated reply = .ok found ↔
      searchHits reply = .ok found.hits ∧ found.buckets = buckets? reply := by
  have read := checked_parsed_eq_ok_iff reply
    (fun hits => { hits, buckets := buckets? reply : Aggregated }) found
  rw [searchHits_eq_ok_iff, and_assoc]
  refine read.trans (and_congr_right fun _ => ?_)
  constructor
  · intro parsed
    obtain ⟨hits, has, rfl⟩ := parsed
    exact ⟨has, rfl⟩
  · intro parsed
    exact ⟨found.hits, parsed.1, by rw [← parsed.2]⟩

theorem aggregated_eq_error_iff (reply : Json) (f : Failure) :
    aggregated reply = .error f ↔ searchHits reply = .error f := by
  rw [searchHits_eq_error_iff]
  exact checked_parsed_eq_error_iff reply
    (fun hits => { hits, buckets := buckets? reply : Aggregated }) f

/-- Failures of the check carry the reply. -/
theorem reply_of_checkComplete_error (reply : Json) (f : Failure)
    (refused : checkComplete reply = .error f) : f.reply = reply := by
  rw [checkComplete, bind_eq_error_iff] at refused
  rcases refused with failed | ⟨_, -, partially⟩
  · unfold checkError at failed
    split at failed
    · cases failed
      rfl
    · cases failed
  · simp only at partially
    split at partially
    · cases partially
      rfl
    · cases partially

/-- A failure to read hits carries the reply. -/
theorem reply_of_searchHits_error (reply : Json) (f : Failure)
    (refused : searchHits reply = .error f) : f.reply = reply := by
  obtain incomplete | ⟨-, fault, -, same⟩ := (searchHits_eq_error_iff reply f).mp refused
  · exact reply_of_checkComplete_error reply f incomplete
  · rw [same]
    rfl

theorem reply_of_aggregated_error (reply : Json) (f : Failure)
    (refused : aggregated reply = .error f) : f.reply = reply :=
  reply_of_searchHits_error reply f ((aggregated_eq_error_iff reply f).mp refused)

/-- Hits are returned exactly if they can be read and none of the reports that are looked at is
there; buckets change nothing about that. So a reply that is returned reports itself failed or
incomplete exactly if it does so in a way that is overlooked. -/
theorem returned_complete_unless_overlooked (reply : Json) :
    (∀ hits, searchHits reply = .ok hits ↔ ¬ IsNoticed reply ∧ HasHits reply hits) ∧
    (∀ found, aggregated reply = .ok found ↔
      searchHits reply = .ok found.hits ∧ found.buckets = buckets? reply) ∧
    ((∃ hits, searchHits reply = .ok hits) ∨ (∃ found, aggregated reply = .ok found) →
      (ReportsFailure reply ↔ IsOverlooked reply)) := by
  refine ⟨searchHits_eq_ok_iff reply, aggregated_eq_ok_iff reply, fun returned => ?_⟩
  have unnoticed : ¬ IsNoticed reply := by
    rcases returned with ⟨hits, read⟩ | ⟨found, read⟩
    · exact ((searchHits_eq_ok_iff reply hits).mp read).1
    · exact ((searchHits_eq_ok_iff reply _).mp ((aggregated_eq_ok_iff reply found).mp read).1).1
  rw [reportsFailure_iff]
  exact or_iff_right unnoticed

/-- The hits of one document, beside what is said of the shards and the time. -/
def oneHit (shards : Json.Members) (timedOut : Bool) : Json :=
  .object [("timed_out", .bool timedOut), ("_shards", .object shards),
    ("hits", .object [("total", .ofUInt64 1), ("hits", .array [.object [("_id", .string "1")]])])]

/-- So many shards in all, so many successful, and a count of those that failed. -/
def shardCounts (total successful : UInt64) (failed : Json) : Json.Members :=
  [("total", .ofUInt64 total), ("successful", .ofUInt64 successful), ("failed", failed)]

/-- A reply of all shards in time is returned, and reports no failure. -/
theorem oneHit_complete :
    (∃ hits, searchHits (oneHit (shardCounts 5 5 (.ofUInt64 0)) false) = .ok hits) ∧
      ¬ ReportsFailure (oneHit (shardCounts 5 5 (.ofUInt64 0)) false) := by
  have returned : ∃ hits, searchHits (oneHit (shardCounts 5 5 (.ofUInt64 0)) false) = .ok hits :=
    ⟨_, rfl⟩
  refine ⟨returned, ?_⟩
  rw [(returned_complete_unless_overlooked _).2.2 (.inl returned)]
  intro overlooked
  cases overlooked with
  | fractionFailed x given positive => cases given
  | shardsMissing total successful all some fewer =>
    cases all
    cases some
    exact absurd fewer (by decide)
  | timedOut given => cases given

/-- Hits are returned with two shards missing, with a number of failed shards that is a double, and
after the time has run out. -/
theorem partial_hits_returned :
    let missing := oneHit (shardCounts 5 3 (.ofUInt64 0)) false
    let failed := oneHit (shardCounts 5 5 (.number (.double ⟨false, 1024, 0⟩))) false
    let late := oneHit (shardCounts 5 5 (.ofUInt64 0)) true
    ∀ reply ∈ [missing, failed, late], ReportsFailure reply ∧
      (∃ hits, searchHits reply = .ok hits) ∧ ∃ found, aggregated reply = .ok found := by
  intro missing failed late
  have returned : ∀ reply ∈ [missing, failed, late],
      (∃ hits, searchHits reply = .ok hits) ∧ ∃ found, aggregated reply = .ok found := by
    simp only [List.forall_mem_cons]
    exact ⟨⟨⟨_, rfl⟩, _, rfl⟩, ⟨⟨_, rfl⟩, _, rfl⟩, ⟨⟨_, rfl⟩, _, rfl⟩, by simp⟩
  have reported : ∀ reply ∈ [missing, failed, late], ReportsFailure reply := by
    simp only [List.forall_mem_cons]
    refine ⟨?_, ?_, ?_, by simp⟩
    · exact .shardsMissing 5 3 rfl rfl (by decide)
    · exact .shardsFailed (.double ⟨false, 1024, 0⟩) rfl (by decide)
    · exact .timedOut rfl
  exact fun reply found => ⟨reported reply found, returned reply found⟩

end Reply
end DocSearch
