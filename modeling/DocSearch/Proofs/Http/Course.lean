import DocSearch.Http.Call
import Mathlib.Data.Nat.Find

/-!
# Courses of calls

What a call meets from outside, laid out in advance: how each of its attempts ends, and the random
number drawn for the rest after it. When the call is looked at, and when its token is fired, is
left open: a run is any sequence of such events. Attempts are counted from zero, so an attempt
bears the number of the retries made before it.
-/
namespace DocSearch.Http

structure Course where
  outcome : Nat → Outcome
  draw : Nat → UInt64

/-- What may happen around a call. The token may also be fired while the call is being looked at,
by the attempt itself; the look does not see that any more. -/
inductive Event where
  | fire
  /-- The attempt or the rest at hand is over by then, or not. -/
  | look (isOver : Bool) (fires : Bool)
  deriving DecidableEq, Repr

namespace Event

def fires : Event → Bool
  | .fire => true
  | .look _ fires => fires

def isLook : Event → Bool
  | .fire => false
  | .look _ _ => true

end Event

/-- Whether an outcome settles a call, however many retries are left. -/
def Outcome.settles : Outcome → Bool
  | .response _ => true
  | .failure f => !f.isTransient

/-- The result of a call whose last attempt, of so many, ended like this. -/
def conclusion (request : Request) (attempts : UInt32) : Outcome → Except Error Json
  | .response response => readReply response
  | .failure failure => .error (.transport failure attempts request)

namespace Call

/-- A call of which nothing has happened yet. -/
def fresh (policy : RetryPolicy) (request : Request) : Call := { policy, request }

theorem look_finished (c : Call) {result : Except Error Json} {progress : Progress}
    (stage : c.stage = .finished result) : c.look progress = c := by
  simp only [look, stage]

theorem look_ready (c : Call) {retries : UInt32} {progress : Progress}
    (stage : c.stage = .ready retries) (quiet : c.isFired = false) :
    c.look progress = (c.record (.send c.request)).goOnSending retries progress := by
  simp [look, stage, quiet]

theorem look_sending (c : Call) {retries : UInt32} {progress : Progress}
    (stage : c.stage = .sending retries) (quiet : c.isFired = false) :
    c.look progress = c.goOnSending retries progress := by
  simp [look, stage, quiet]

theorem look_resting (c : Call) {attempts : UInt32} {length : Duration} {progress : Progress}
    (stage : c.stage = .resting attempts length) (quiet : c.isFired = false) :
    c.look progress =
      match progress with
      | .rested => { c with stage := .ready attempts }
      | _ => c := by
  cases progress <;> simp [look, stage, quiet]

theorem settle_keeps (c : Call) (retries : UInt32) (draw : UInt64) (outcome : Outcome) :
    (c.settle retries draw outcome).policy = c.policy ∧
      (c.settle retries draw outcome).isFired = c.isFired := by
  cases outcome with
  | response response => exact ⟨rfl, rfl⟩
  | failure failure =>
    simp only [settle]
    split <;> exact ⟨rfl, rfl⟩

theorem goOnSending_keeps (c : Call) (retries : UInt32) (progress : Progress) :
    (c.goOnSending retries progress).policy = c.policy ∧
      (c.goOnSending retries progress).isFired = c.isFired := by
  cases progress with
  | ended outcome draw => exact c.settle_keeps retries draw outcome
  | pending => exact ⟨rfl, rfl⟩
  | rested => exact ⟨rfl, rfl⟩

theorem sends_goOnSending (c : Call) (retries : UInt32) (progress : Progress) :
    (c.goOnSending retries progress).sends = c.sends := by
  cases progress with
  | pending => rfl
  | rested => rfl
  | ended outcome draw =>
    cases outcome with
    | response response => rfl
    | failure failure =>
      simp only [goOnSending, settle]
      split
      · simp [sends, record]
      · rfl

theorem look_keeps (c : Call) (progress : Progress) :
    (c.look progress).policy = c.policy ∧ (c.look progress).isFired = c.isFired := by
  unfold look
  split
  · exact ⟨rfl, rfl⟩
  · split
    · exact ⟨rfl, rfl⟩
    · exact goOnSending_keeps _ _ _
  · split
    · exact ⟨rfl, rfl⟩
    · exact goOnSending_keeps _ _ _
  · split
    · exact ⟨rfl, rfl⟩
    · split <;> exact ⟨rfl, rfl⟩

theorem policy_look (c : Call) (progress : Progress) : (c.look progress).policy = c.policy :=
  (c.look_keeps progress).1

/-- Only the token itself fires the token. -/
theorem isFired_look (c : Call) (progress : Progress) :
    (c.look progress).isFired = c.isFired :=
  (c.look_keeps progress).2

end Call

namespace Course

/-- What the call is told of the attempt or the rest at hand once it is over. An attempt about to
be made is the next after those sent so far. -/
def progress (w : Course) (c : Call) : Progress :=
  match c.stage with
  | .ready _ => .ended (w.outcome c.sends.length) (w.draw c.sends.length)
  | .sending _ => .ended (w.outcome (c.sends.length - 1)) (w.draw (c.sends.length - 1))
  | .resting _ _ => .rested
  | .finished _ => .pending

def step (w : Course) (c : Call) : Event → Call
  | .fire => c.step .fire
  | .look isOver fires =>
    let looked := c.step (.look (if isOver then w.progress c else .pending))
    if fires then looked.step .fire else looked

/-- The call after a sequence of events. -/
def run (w : Course) (c : Call) (events : List Event) : Call := events.foldl w.step c

/-- A call without a token, after it was looked at so often. -/
def execute (w : Course) (policy : RetryPolicy) (request : Request) (looks : List Bool) : Call :=
  w.run (.fresh policy request) (looks.map fun isOver => .look isOver false)

@[simp] theorem run_nil (w : Course) (c : Call) : w.run c [] = c := rfl

@[simp] theorem run_cons (w : Course) (c : Call) (event : Event) (events : List Event) :
    w.run c (event :: events) = w.run (w.step c event) events := rfl

theorem run_append (w : Course) (c : Call) (before after : List Event) :
    w.run c (before ++ after) = w.run (w.run c before) after := by
  simp only [run, List.foldl_append]

/-- A finished call keeps its result, whatever happens around it. -/
theorem result?_run (w : Course) {c : Call} {result : Except Error Json}
    (ended : c.result? = some result) (events : List Event) :
    (w.run c events).result? = some result := by
  induction events generalizing c with
  | nil => exact ended
  | cons event events ih =>
    refine ih ?_
    have stage : c.stage = .finished result := by
      rw [Call.result?] at ended
      split at ended <;> cases ended
      assumption
    cases event with
    | fire => exact ended
    | look isOver fires =>
      have still (progress : Progress) : c.step (.look progress) = c := c.look_finished stage
      rw [step, still]
      cases fires <;> exact ended

theorem policy_run (w : Course) (c : Call) (events : List Event) :
    (w.run c events).policy = c.policy := by
  induction events generalizing c with
  | nil => rfl
  | cons event events ih =>
    rw [run_cons, ih]
    cases event with
    | fire => rfl
    | look isOver fires =>
      have looked := c.policy_look (if isOver then w.progress c else .pending)
      cases fires with
      | false => exact looked
      | true => exact looked

/-- The number of retries a call makes: the first attempt settles it whose outcome does, or after
which no retry is left. -/
def retries (w : Course) (policy : RetryPolicy) : Nat :=
  Nat.find (p := fun n => (w.outcome n).settles = true ∨ n = policy.maxRetries.toNat)
    ⟨_, Or.inr rfl⟩

theorem retries_le (w : Course) (policy : RetryPolicy) :
    w.retries policy ≤ policy.maxRetries.toNat :=
  Nat.find_min' _ (Or.inr rfl)

theorem settles_or_exhausted (w : Course) (policy : RetryPolicy) :
    (w.outcome (w.retries policy)).settles = true ∨
      w.retries policy = policy.maxRetries.toNat :=
  Nat.find_spec (p := fun n => (w.outcome n).settles = true ∨ n = policy.maxRetries.toNat) _

theorem not_settles_of_lt (w : Course) (policy : RetryPolicy) (n : Nat)
    (early : n < w.retries policy) :
    (w.outcome n).settles = false ∧ n < policy.maxRetries.toNat := by
  have unsettled := Nat.find_min _ early
  have bound := Nat.lt_of_lt_of_le early (w.retries_le policy)
  rw [not_or] at unsettled
  exact ⟨by simpa using unsettled.1, bound⟩

/-- What a call does in its first `n` attempts if each of them is rested after. -/
def rounds (w : Course) (policy : RetryPolicy) (request : Request) (n : Nat) : List Action :=
  (List.range n).flatMap fun i =>
    [.send request, .rest (.ofNat (i + 1)) (policy.delay (.ofNat (i + 1)) (w.draw i))]

theorem rounds_succ (w : Course) (policy : RetryPolicy) (request : Request) (n : Nat) :
    w.rounds policy request (n + 1) = w.rounds policy request n ++
      [.send request, .rest (.ofNat (n + 1)) (policy.delay (.ofNat (n + 1)) (w.draw n))] := by
  simp [rounds, List.range_succ]

end Course
end DocSearch.Http
