import DocSearch.Http.Duration

/-!
# Retrying

How often a failed attempt is repeated, and how long the call rests before. The rest grows by one
step with every retry, and is stretched by a random part of a step, so that callers spread out.
Delays are nanoseconds of 64 bits and stop growing at the greatest of them.
-/
namespace DocSearch.Http

/-- The greatest delay, in nanoseconds. -/
def greatestDelay : Nat := UInt64.size - 1

/-- How a call retries. -/
structure RetryPolicy where
  maxRetries : UInt32 := 3
  base : Duration := .ofMillis 500
  deriving DecidableEq, Repr, Inhabited

namespace RetryPolicy

/-- A policy that never retries. -/
def never : RetryPolicy := { maxRetries := 0 }

/-- The most attempts of a call, the first one included, as far as it can be counted. -/
def maxAttempts (p : RetryPolicy) : UInt32 :=
  if p.maxRetries = UInt32.ofNat (UInt32.size - 1) then p.maxRetries else p.maxRetries + 1

theorem toNat_succ_of_lt (n : UInt32) (room : n.toNat + 1 < UInt32.size) :
    (n + 1).toNat = n.toNat + 1 := by
  rw [UInt32.toNat_add, UInt32.toNat_one]
  exact Nat.mod_eq_of_lt room

/-- The count of attempts stops at the greatest number that it can hold. -/
theorem toNat_maxAttempts (p : RetryPolicy) :
    p.maxAttempts.toNat = min (p.maxRetries.toNat + 1) (UInt32.size - 1) := by
  have bound := p.maxRetries.toNat_lt_size
  unfold maxAttempts
  split
  next greatest =>
    have full : p.maxRetries.toNat = UInt32.size - 1 := by rw [greatest]; rfl
    omega
  next below =>
    have room : p.maxRetries.toNat ≠ UInt32.size - 1 := fun full =>
      below (UInt32.toNat_inj.mp full)
    have counted := toNat_succ_of_lt p.maxRetries (by omega)
    omega

/-- The step by which delays grow, in nanoseconds. -/
def step (p : RetryPolicy) : Nat := min p.base.nanos greatestDelay

/-- The random part of a delay, from a random number. -/
def jitter (p : RetryPolicy) (draw : UInt64) : Nat :=
  if p.step = 0 then 0 else draw.toNat % p.step

/-- The delay before a retry, counted from one, given its random part. -/
def delayWith (p : RetryPolicy) (retry : UInt32) (jitter : Nat) : Duration :=
  ⟨min (min (p.step * retry.toNat) greatestDelay + jitter) greatestDelay⟩

/-- The delay before a retry, given a random number. -/
def delay (p : RetryPolicy) (retry : UInt32) (draw : UInt64) : Duration :=
  p.delayWith retry (p.jitter draw)

/-- The least delay before a retry. -/
def leastDelay (p : RetryPolicy) (retry : UInt32) : Duration := p.delayWith retry 0

/-- The greatest delay before a retry. -/
def greatestDelayBefore (p : RetryPolicy) (retry : UInt32) : Duration :=
  p.delayWith retry (p.step - 1)

/-- Whether a delay is one that may stand before a retry. -/
def allows (p : RetryPolicy) (retry : UInt32) (d : Duration) : Bool :=
  (p.leastDelay retry).nanos ≤ d.nanos && d.nanos ≤ (p.greatestDelayBefore retry).nanos

theorem allows_delay (p : RetryPolicy) (retry : UInt32) (draw : UInt64) :
    p.allows retry (p.delay retry draw) = true := by
  have bound : p.jitter draw ≤ p.step - 1 := by
    unfold jitter
    split
    · exact Nat.zero_le _
    · have := Nat.mod_lt draw.toNat (Nat.pos_of_ne_zero ‹_›)
      omega
  rw [allows, Bool.and_eq_true, decide_eq_true_eq, decide_eq_true_eq]
  constructor
  · show min (min (p.step * retry.toNat) greatestDelay + 0) greatestDelay ≤
      min (min (p.step * retry.toNat) greatestDelay + p.jitter draw) greatestDelay
    omega
  · show min (min (p.step * retry.toNat) greatestDelay + p.jitter draw) greatestDelay ≤
      min (min (p.step * retry.toNat) greatestDelay + (p.step - 1)) greatestDelay
    omega

end RetryPolicy
end DocSearch.Http
