import DocSearch.Http.Call

/-!
# Rehearsing a call

A call run against recorded outcomes, in virtual time. Calls that share a script take its steps in
turn, one for each attempt. A step takes some time, none at all perhaps, and may fire the token of
the call as its attempt starts; a token may also be fired at an instant counted from the start of
its call.
-/
namespace DocSearch.Http

/-- A recorded attempt. -/
structure ScriptStep where
  outcome : Outcome
  latency : Duration := ⟨0⟩
  fires : Bool := false
  deriving DecidableEq, Repr

/-- The failure of an attempt for which nothing was recorded. -/
def exhausted : ScriptStep := { outcome := .failure ⟨.other, "script exhausted"⟩ }

/-- Recorded attempts, and the one that stands for all further ones. -/
structure Script where
  steps : List ScriptStep
  fallback : ScriptStep := exhausted
  deriving DecidableEq, Repr

/-- The next step, and the script without it. -/
def Script.next (s : Script) : ScriptStep × Script :=
  match s.steps with
  | [] => (s.fallback, s)
  | step :: rest => (step, { s with steps := rest })

/-- When the token of a call is fired, apart from what the script does. -/
inductive Token where
  | absent
  | never
  | before
  | after (time : Duration)
  deriving DecidableEq, Repr

namespace Token

/-- Whether the token is fired in the time from `clock` on, of the given length. -/
def firesWithin (t : Token) (clock : Nat) (length : Duration) : Bool :=
  match t with
  | .after time => clock ≤ time.nanos && time.nanos < clock + length.nanos
  | _ => false

/-- Whether a step that fires the token finds one. -/
def isPresent (t : Token) : Bool := t != .absent

end Token

/-- A call in virtual time, with what is left of the script. -/
structure Rehearsal where
  call : Call
  script : Script
  clock : Nat := 0
  deriving Repr

namespace Rehearsal

/-- Waits for the attempt or the rest at hand, which takes `length`; a token fired meanwhile is
seen at once. -/
def wait (r : Rehearsal) (token : Token) (length : Duration) (progress : Progress) : Rehearsal :=
  if r.call.isFired || token.firesWithin r.clock length then
    { r with call := (r.call.step .fire).step (.look .pending) }
  else
    { r with call := r.call.step (.look progress), clock := r.clock + length.nanos }

/-- Makes one attempt with the next step of the script. -/
def attempt (r : Rehearsal) (token : Token) (draw : UInt64) : Rehearsal :=
  if r.call.isFired then { r with call := r.call.step (.look .pending) }
  else
    let (step, script) := r.script.next
    let fire := fun (c : Call) => if step.fires && token.isPresent then c.step .fire else c
    let ended := Progress.ended step.outcome draw
    if step.latency.nanos = 0 then
      { r with script, call := fire (r.call.step (.look ended)) }
    else
      let started : Rehearsal := { r with script, call := fire (r.call.step (.look .pending)) }
      started.wait token step.latency ended

/-- Waits out a rest, if the call is resting. -/
def rest (r : Rehearsal) (token : Token) : Rehearsal :=
  match r.call.stage with
  | .resting _ length => r.wait token length .rested
  | _ => r

/-- Makes attempts until the call is finished, at most `rounds` of them. -/
def rounds (token : Token) (draws : UInt32 → UInt64) : Nat → Rehearsal → Rehearsal
  | 0, r => r
  | n + 1, r =>
    match r.call.stage with
    | .ready retries => rounds token draws n ((r.attempt token (draws (retries + 1))).rest token)
    | _ => r

/-- Runs a call from its start. A call makes one attempt more than it has retries. -/
def run (policy : RetryPolicy) (request : Request) (token : Token) (draws : UInt32 → UInt64)
    (script : Script) : Rehearsal :=
  rounds token draws (policy.maxRetries.toNat + 1)
    { call := { policy, request, isFired := token == .before }, script }

/-- Whether every attempt sent the request of the call. -/
def isReplayed (r : Rehearsal) : Bool := r.call.sends.all (· == r.call.request)

/-- Whether every rest was as long as it may be. -/
def restsAreAllowed (r : Rehearsal) : Bool :=
  r.call.rests.all fun (retry, length) => r.call.policy.allows retry length

end Rehearsal
end DocSearch.Http
