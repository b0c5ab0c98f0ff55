import DocSearch.Http.Error
import DocSearch.Http.Retry

/-!
# A call, step by step

A call makes attempts of one request until one of them settles it. It is driven from outside: a
signal says that its token was fired, or that it is looked at again, and what has become of the
attempt or the rest at hand. Whenever a call is looked at, a fired token comes before everything
else; a token fired while an attempt is being started is seen at the next look only.
-/
namespace DocSearch.Http

/-- Where a call stands. -/
inductive Stage where
  /-- About to make an attempt, after so many retries. -/
  | ready (retries : UInt32)
  /-- An attempt is under way, after so many retries. -/
  | sending (retries : UInt32)
  /-- Resting after so many attempts, for so long. -/
  | resting (attempts : UInt32) (length : Duration)
  | finished (result : Except Error Json)
  deriving Repr

/-- What a call did. -/
inductive Action where
  | send (request : Request)
  /-- Began a rest, of this length, before the retry of this number. -/
  | rest (retry : UInt32) (length : Duration)
  deriving DecidableEq, Repr

/-- A call under way. -/
structure Call where
  policy : RetryPolicy
  request : Request
  stage : Stage := .ready 0
  isFired : Bool := false
  actions : List Action := []
  deriving Repr

/-- What has become of the attempt or the rest at hand. -/
inductive Progress where
  | pending
  /-- The attempt has ended; the random number serves the rest that may follow. -/
  | ended (outcome : Outcome) (draw : UInt64)
  /-- The rest is over. -/
  | rested
  deriving DecidableEq, Repr

inductive Signal where
  | fire
  | look (progress : Progress)
  deriving DecidableEq, Repr

namespace Call

def finish (c : Call) (result : Except Error Json) : Call :=
  { c with stage := .finished result }

def record (c : Call) (action : Action) : Call :=
  { c with actions := c.actions ++ [action] }

/-- Takes the outcome of the attempt made after `retries` retries. A response settles the call; a
transient failure is followed by a rest while retries are left. -/
def settle (c : Call) (retries : UInt32) (draw : UInt64) : Outcome → Call
  | .response response => c.finish (readReply response)
  | .failure failure =>
    let attempts := retries + 1
    if failure.isTransient ∧ retries < c.policy.maxRetries then
      let length := c.policy.delay attempts draw
      { c.record (.rest attempts length) with stage := .resting attempts length }
    else c.finish (.error (.transport failure attempts c.request))

/-- Goes on with an attempt under way. -/
def goOnSending (c : Call) (retries : UInt32) : Progress → Call
  | .ended outcome draw => c.settle retries draw outcome
  | _ => { c with stage := .sending retries }

/-- Looks at a call. -/
def look (c : Call) (progress : Progress) : Call :=
  match c.stage with
  | .finished _ => c
  | .ready retries =>
    if c.isFired then c.finish (.error (.cancelled (retries + 1)))
    else (c.record (.send c.request)).goOnSending retries progress
  | .sending retries =>
    if c.isFired then c.finish (.error (.cancelled (retries + 1)))
    else c.goOnSending retries progress
  | .resting attempts _ =>
    if c.isFired then c.finish (.error (.cancelled attempts))
    else
      match progress with
      | .rested => { c with stage := .ready attempts }
      | _ => c

def step (c : Call) : Signal → Call
  | .fire => { c with isFired := true }
  | .look progress => c.look progress

/-- The call after a sequence of signals. -/
def run (c : Call) (signals : List Signal) : Call := signals.foldl step c

def result? (c : Call) : Option (Except Error Json) :=
  match c.stage with
  | .finished result => some result
  | _ => none

/-- The requests that were sent, in order. -/
def sends (c : Call) : List Request :=
  c.actions.filterMap fun
    | .send request => some request
    | .rest _ _ => none

/-- The rests that were begun, in order, each with the number of its retry. -/
def rests (c : Call) : List (UInt32 × Duration) :=
  c.actions.filterMap fun
    | .send _ => none
    | .rest retry length => some (retry, length)

end Call
end DocSearch.Http
