import DocSearch.Proofs.Http.Cancellation

/-!
# How attempts are counted

Attempts are counted in 32 bits. The policy stops counting at the greatest number; the call itself
counts one on from its retries without looking. The two differ for one course only: the policy
allows the greatest number of retries, and every attempt that can be counted fails in a way that
may go by. Then the call makes one attempt more than the policy counts, and bears the number zero
in its error. On every other course the count is right, whatever is done to the token.
-/
namespace DocSearch.Http

/-- The retries made before the attempt that is next or under way. -/
def Call.retries? (c : Call) : Option UInt32 :=
  match c.stage with
  | .ready retries | .sending retries => some retries
  | .resting _ _ | .finished _ => none

namespace Course

/-- A call with or without a token is on its course, or was cancelled there. -/
inductive Reaches (w : Course) (policy : RetryPolicy) (request : Request) (c : Call) : Prop
  | onCourse {ended : Nat} (carried : w.Carries policy request ended c)
  | cancelled {attempts : UInt32} (stage : c.stage = .finished (.error (.cancelled attempts)))
      (fired : c.isFired = true)
      (sent : c.sends <+: List.replicate (w.retries policy + 1) request)

variable {w : Course} {policy : RetryPolicy} {request : Request}

/-- No event takes a call off its course but the one that ends it as cancelled. -/
theorem Reaches.step {c : Call} (h : w.Reaches policy request c) (event : Event) :
    w.Reaches policy request (w.step c event) := by
  cases h with
  | cancelled stage fired sent =>
    have finished : c.result? ≠ none := by simp [Call.result?, stage]
    rw [w.step_of_fired c event fired, if_neg (fun both => finished both.2)]
    exact .cancelled stage fired sent
  | onCourse carried =>
    cases fired : c.isFired with
    | true =>
      rw [w.step_of_fired c event fired]
      split
      · exact .cancelled rfl fired carried.sends_prefix
      · exact .onCourse carried
    | false =>
      cases event with
      | fire => exact .onCourse ⟨carried.policy_eq, carried.request_eq, carried.standing⟩
      | look isOver fires =>
        have looked := carried.look fired isOver
        cases fires with
        | false => exact .onCourse looked
        | true => exact .onCourse ⟨looked.policy_eq, looked.request_eq, looked.standing⟩

theorem Reaches.run {c : Call} (h : w.Reaches policy request c) (events : List Event) :
    w.Reaches policy request (w.run c events) := by
  induction events generalizing c with
  | nil => exact h
  | cons event events ih => exact ih (h.step event)

theorem reaches_run (w : Course) (policy : RetryPolicy) (request : Request)
    (events : List Event) : w.Reaches policy request (w.run (.fresh policy request) events) :=
  Reaches.run (.onCourse (w.carries_fresh policy request)) events

/-! ## The counter -/

theorem Reaches.retries_le {c : Call} (h : w.Reaches policy request c) (retries : UInt32)
    (at_hand : c.retries? = some retries) : retries.toNat ≤ w.retries policy := by
  have small := retries_lt_size w policy
  have counted : ∀ n, n ≤ w.retries policy → (UInt32.ofNat n).toNat = n := fun n reached =>
    UInt32.toNat_ofNat_of_lt' (Nat.lt_of_le_of_lt reached small)
  rw [Call.retries?] at at_hand
  cases h with
  | cancelled stage fired sent =>
    rw [stage] at at_hand
    cases at_hand
  | onCourse carried =>
    obtain ⟨-, -, standing⟩ := carried
    generalize c.stage = stage, c.actions = actions at standing at_hand
    cases standing with
    | ready n reached =>
      cases at_hand
      rw [counted n reached]
      exact reached
    | sending n reached =>
      cases at_hand
      rw [counted n reached]
      exact reached
    | resting n reached => cases at_hand
    | finished ended reached => cases at_hand

/-- A call without a token comes to its last attempt. -/
theorem exists_last_attempt (w : Course) (policy : RetryPolicy) (request : Request) :
    ∃ looks, (w.execute policy request looks).retries? = some (.ofNat (w.retries policy)) := by
  refine ⟨List.replicate (2 * w.retries policy) true, ?_⟩
  have carried := w.carries_execute policy request (List.replicate (2 * w.retries policy) true)
  rw [List.count_replicate_self] at carried
  obtain ⟨-, -, standing⟩ := carried
  rw [Call.retries?]
  generalize ended_eq : 2 * w.retries policy = ended at standing
  generalize (w.execute policy request _).stage = stage,
    (w.execute policy request _).actions = actions at standing ⊢
  cases standing with
  | ready n reached => rw [Nat.eq_of_mul_eq_mul_left Nat.two_pos ended_eq]
  | sending n reached => rw [Nat.eq_of_mul_eq_mul_left Nat.two_pos ended_eq]
  | resting n reached => omega
  | finished ended reached => omega

/-! ## Attempts sent and attempts reported -/

theorem Reaches.sends_prefix {c : Call} (h : w.Reaches policy request c) :
    c.sends <+: List.replicate (w.retries policy + 1) request := by
  cases h with
  | cancelled stage fired sent => exact sent
  | onCourse carried => exact carried.sends_prefix

theorem Reaches.sends_length_le {c : Call} (h : w.Reaches policy request c) :
    c.sends.length ≤ w.retries policy + 1 := by
  have length := h.sends_prefix.length_le
  rwa [List.length_replicate] at length

/-- A call that is looked at until it is finished has made all its attempts. -/
theorem exists_all_sent (w : Course) (policy : RetryPolicy) (request : Request) :
    ∃ looks, (w.execute policy request looks).sends.length = w.retries policy + 1 ∧
      (w.execute policy request looks).result? =
        some (conclusion request (.ofNat (w.retries policy + 1))
          (w.outcome (w.retries policy))) := by
  let looks := List.replicate (2 * w.retries policy + 1) true
  have enough : 2 * w.retries policy + 1 ≤ looks.count true := by
    rw [List.count_replicate_self]
  obtain ⟨result, actions⟩ := (w.carries_execute policy request looks).result
  refine ⟨looks, ?_, ?_⟩
  · rw [w.sends_rounds_send policy request _ _ (actions enough), List.length_replicate]
  · rw [result, if_pos enough]

/-- A failure on the way is reported with the number of attempts sent, as far as 32 bits hold it. -/
theorem Reaches.transport {c : Call} (h : w.Reaches policy request c) (failure : TransportFailure)
    (attempts : UInt32) (asked : Request)
    (result : c.result? = some (.error (.transport failure attempts asked))) :
    attempts = .ofNat (w.retries policy + 1) ∧ c.sends.length = w.retries policy + 1 := by
  cases h with
  | cancelled stage fired sent => simp [Call.result?, stage] at result
  | onCourse carried =>
    obtain ⟨read_off, actions⟩ := carried.result
    rw [read_off] at result
    split at result
    next enough =>
      have concluded := Option.some.inj result
      refine ⟨?_, ?_⟩
      · cases outcome : w.outcome (w.retries policy) with
        | failure failure =>
          rw [outcome, conclusion] at concluded
          injection Except.error.inj concluded with _ same
          exact same.symm
        | response response =>
          rw [outcome, conclusion, readReply] at concluded
          split at concluded <;> cases concluded
      · rw [w.sends_rounds_send policy request _ c (actions enough), List.length_replicate]
    next => cases result

/-! ## The one course that cannot be counted -/

/-- The policy allows the greatest number of retries, and no attempt before the last that can be
counted, nor that one itself, settles the call. -/
structure Overruns (w : Course) (policy : RetryPolicy) : Prop where
  unlimited : policy.maxRetries.toNat = UInt32.size - 1
  unsettled : ∀ n, n < UInt32.size - 1 → (w.outcome n).settles = false

theorem overruns_iff (w : Course) (policy : RetryPolicy) :
    w.Overruns policy ↔ w.retries policy + 1 = UInt32.size := by
  have bound := w.retries_le policy
  have size := policy.maxRetries.toNat_lt_size
  constructor
  · rintro ⟨unlimited, unsettled⟩
    rcases w.settles_or_exhausted policy with settled | exhausted
    · by_contra early
      rw [unsettled _ (by omega)] at settled
      cases settled
    · omega
  · intro last
    refine ⟨by omega, fun n early => ?_⟩
    exact (w.not_settles_of_lt policy n (by omega)).1

theorem retries_succ_lt_of_not_overruns (w : Course) (policy : RetryPolicy)
    (counted : ¬ w.Overruns policy) : w.retries policy + 1 < UInt32.size := by
  have small := retries_lt_size w policy
  rw [overruns_iff] at counted
  omega

/-- The number of the last attempt that an overrunning call makes is lost. -/
theorem Overruns.miscounts (overrun : w.Overruns policy) :
    (UInt32.ofNat (w.retries policy) + 1).toNat ≠ (UInt32.ofNat (w.retries policy)).toNat + 1 := by
  have last := (w.overruns_iff policy).mp overrun
  have wrapped : (UInt32.ofNat (w.retries policy) + 1).toNat = 0 := by
    rw [ofNat_retry_succ, last]
    rfl
  rw [wrapped]
  exact (Nat.succ_ne_zero _).symm

/-- However a call is looked at and its token fired, three things hold unless its course overruns,
and fail if it does: the number of the attempt at hand can be counted, no more attempts are made
than the policy counts, and a failure on the way is reported with the number of attempts made, one
at least. That number is always right modulo the size of the counter. -/
theorem counted_unless_overrun (w : Course) (policy : RetryPolicy) (request : Request) :
    ((∀ events retries, (w.run (.fresh policy request) events).retries? = some retries →
      (retries + 1).toNat = retries.toNat + 1) ↔ ¬ w.Overruns policy) ∧
    ((∀ events, (w.run (.fresh policy request) events).sends.length ≤
      policy.maxAttempts.toNat) ↔ ¬ w.Overruns policy) ∧
    (∀ events failure attempts asked,
      (w.run (.fresh policy request) events).result? =
        some (.error (.transport failure attempts asked)) →
      attempts.toNat = (w.run (.fresh policy request) events).sends.length % UInt32.size ∧
      (attempts.toNat = (w.run (.fresh policy request) events).sends.length ∧
        1 ≤ attempts.toNat ↔ ¬ w.Overruns policy)) := by
  have size := policy.maxRetries.toNat_lt_size
  have bound := w.retries_le policy
  refine ⟨⟨fun counts overrun => ?_, fun counted events retries at_hand => ?_⟩,
    ⟨fun within overrun => ?_, fun counted events => ?_⟩,
    fun events failure attempts asked result => ?_⟩
  · obtain ⟨looks, at_hand⟩ := w.exists_last_attempt policy request
    exact overrun.miscounts (counts _ _ at_hand)
  · have room := w.retries_succ_lt_of_not_overruns policy counted
    have reached := (w.reaches_run policy request events).retries_le retries at_hand
    exact RetryPolicy.toNat_succ_of_lt retries (by omega)
  · have last := (w.overruns_iff policy).mp overrun
    obtain ⟨looks, sent, -⟩ := w.exists_all_sent policy request
    have limited : (w.execute policy request looks).sends.length ≤ policy.maxAttempts.toNat :=
      within _
    rw [sent, policy.toNat_maxAttempts] at limited
    omega
  · have room := w.retries_succ_lt_of_not_overruns policy counted
    have sent := (w.reaches_run policy request events).sends_length_le
    rw [policy.toNat_maxAttempts]
    omega
  · obtain ⟨number, sent⟩ :=
      (w.reaches_run policy request events).transport failure attempts asked result
    have modular : attempts.toNat = (w.retries policy + 1) % UInt32.size := by
      rw [number]
      exact UInt32.toNat_ofNat'
    rw [sent]
    refine ⟨modular, ⟨fun exact_count overrun => ?_, fun counted => ?_⟩⟩
    · have last := (w.overruns_iff policy).mp overrun
      rw [last, Nat.mod_self] at modular
      omega
    · have room := w.retries_succ_lt_of_not_overruns policy counted
      rw [Nat.mod_eq_of_lt room] at modular
      omega

/-- Every attempt times out. -/
def timesOut : Course where
  outcome _ := .failure ⟨.timeout, "no answer"⟩
  draw _ := 0

/-- With the usual policy no more than four attempts are made, and so many are reported. -/
theorem timesOut_counted :
    let c := timesOut.execute {} startPage (List.replicate 7 true)
    ¬ timesOut.Overruns {} ∧
    (∀ events, (timesOut.run (.fresh {} startPage) events).sends.length ≤ 4) ∧
    c.result? = some (.error (.transport ⟨.timeout, "no answer"⟩ 4 startPage)) ∧
    c.sends.length = 4 := by
  intro c
  have counted : ¬ timesOut.Overruns {} := fun overrun => absurd overrun.unlimited (by decide)
  have result : c.result? = some (.error (.transport ⟨.timeout, "no answer"⟩ 4 startPage)) := by
    decide +kernel
  obtain ⟨-, bounded, reported⟩ := timesOut.counted_unless_overrun {} startPage
  exact ⟨counted, bounded.mpr counted, result,
    (((reported _ _ _ _ result).2.mpr counted).1).symm⟩

/-- Retries as often as can be said, without a rest. -/
def tireless : RetryPolicy := { maxRetries := 4294967295, base := ⟨0⟩ }

theorem timesOut_overruns : timesOut.Overruns tireless := ⟨rfl, fun _ _ => rfl⟩

/-- The last of so many attempts has a number that cannot be counted, it is one more than the
policy counts, and the error says that none was made. -/
theorem tireless_miscounted :
    tireless.maxAttempts = 4294967295 ∧
    (∃ looks, ∃ retries : UInt32,
      (timesOut.execute tireless startPage looks).retries? = some retries ∧
        (retries + 1).toNat ≠ retries.toNat + 1) ∧
    ∃ looks, (timesOut.execute tireless startPage looks).sends.length = 4294967296 ∧
      (timesOut.execute tireless startPage looks).result? =
        some (.error (.transport ⟨.timeout, "no answer"⟩ 0 startPage)) := by
  have last : timesOut.retries tireless + 1 = 4294967296 :=
    (timesOut.overruns_iff tireless).mp timesOut_overruns
  have wrapped : UInt32.ofNat 4294967296 = 0 := by decide
  obtain ⟨looks, at_hand⟩ := timesOut.exists_last_attempt tireless startPage
  obtain ⟨more, sent, result⟩ := timesOut.exists_all_sent tireless startPage
  rw [last, wrapped] at result
  exact ⟨rfl, ⟨looks, _, at_hand, timesOut_overruns.miscounts⟩, more, sent.trans last, result⟩

end Course
end DocSearch.Http
