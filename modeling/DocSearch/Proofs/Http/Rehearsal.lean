import DocSearch.Proofs.Http.Cancellation

/-!
# Rehearsals are runs

A script lays out a course, and virtual time only decides when the call is looked at and when its
token is fired. So whatever holds of every run of a call on a course holds of a rehearsal. A
rehearsal always comes to its end, as each of its rounds uses up an attempt.
-/
namespace DocSearch.Http

namespace Script

/-- The step of an attempt, counted from zero. -/
def stepAt (s : Script) (n : Nat) : ScriptStep := s.steps[n]?.getD s.fallback

/-- What is left of a script after so many attempts. -/
def after (s : Script) (n : Nat) : Script := { s with steps := s.steps.drop n }

/-- The course a script and the random numbers for the rests lay out. -/
def course (s : Script) (draws : UInt32 → UInt64) : Course where
  outcome n := (s.stepAt n).outcome
  draw n := draws (.ofNat (n + 1))

theorem next_after (s : Script) (n : Nat) : (s.after n).next = (s.stepAt n, s.after (n + 1)) := by
  have head : (s.steps.drop n).head? = s.steps[n]? := List.head?_drop
  have tail : (s.steps.drop n).tail = s.steps.drop (n + 1) := List.tail_drop
  simp only [next, after, stepAt, ← head, ← tail]
  cases s.steps.drop n with
  | nil => rfl
  | cons step rest => rfl

end Script

/-- The number a stage keeps is that of the attempts sent. -/
def Stage.Counts (sent : Nat) : Stage → Prop
  | .ready retries => retries = .ofNat sent
  | .sending retries => retries + 1 = .ofNat sent
  | .resting attempts _ => attempts = .ofNat sent
  | .finished _ => True

namespace Call

theorem counts_of_finished (c : Call) (sent : Nat) (finished : c.result?.isSome = true) :
    c.stage.Counts sent := by
  rw [result?] at finished
  cases stage : c.stage with
  | finished result => trivial
  | _ => simp [stage] at finished

/-- An outcome ends the call, or leads on to a rest if a retry is left. -/
theorem settle_stage (c : Call) (retries : UInt32) (draw : UInt64) (outcome : Outcome) :
    (c.settle retries draw outcome).result?.isSome = true ∨
      ∃ length, (c.settle retries draw outcome).stage = .resting (retries + 1) length ∧
        retries < c.policy.maxRetries := by
  cases outcome with
  | response response => exact .inl rfl
  | failure failure =>
    simp only [settle]
    split
    · next retried => exact .inr ⟨_, rfl, retried.2⟩
    · exact .inl rfl

theorem counts_goOnSending (c : Call) (retries : UInt32) (progress : Progress)
    (counted : retries + 1 = .ofNat c.sends.length) :
    (c.goOnSending retries progress).stage.Counts
      (c.goOnSending retries progress).sends.length := by
  rw [sends_goOnSending]
  cases progress with
  | pending => exact counted
  | rested => exact counted
  | ended outcome draw =>
    obtain finished | ⟨length, resting, -⟩ := c.settle_stage retries draw outcome
    · exact counts_of_finished _ _ finished
    · rw [goOnSending, resting]
      exact counted

theorem sends_record_send (c : Call) (request : Request) :
    (c.record (.send request)).sends = c.sends ++ [request] := by
  simp [sends, record]

/-- A look that starts an attempt counts it, and no other look sends. -/
theorem counts_look (c : Call) (progress : Progress)
    (counted : c.stage.Counts c.sends.length) :
    (c.look progress).stage.Counts (c.look progress).sends.length := by
  by_cases fired : c.isFired = true
  · rw [look_of_fired c progress fired]
    split
    · exact counted
    · trivial
  · have quiet : c.isFired = false := Bool.eq_false_iff.mpr fired
    cases stage : c.stage with
    | ready retries =>
      rw [stage] at counted
      rw [c.look_ready stage quiet]
      apply counts_goOnSending
      rw [sends_record_send, List.length_append, List.length_singleton, ← ofNat_retry_succ]
      exact congrArg (· + 1) counted
    | sending retries =>
      rw [stage] at counted
      rw [c.look_sending stage quiet]
      exact c.counts_goOnSending retries progress counted
    | resting attempts length =>
      rw [c.look_resting stage quiet]
      rw [stage] at counted
      cases progress with
      | rested => exact counted
      | _ => rw [stage]; exact counted
    | finished result =>
      rw [c.look_finished stage, stage]
      trivial

/-- Only a call about to make an attempt sends one. -/
theorem sends_look_of_not_ready (c : Call) (progress : Progress)
    (busy : ∀ retries, c.stage ≠ .ready retries) : (c.look progress).sends = c.sends := by
  by_cases fired : c.isFired = true
  · rw [look_of_fired c progress fired]
    split <;> rfl
  · have quiet : c.isFired = false := Bool.eq_false_iff.mpr fired
    cases stage : c.stage with
    | ready retries => exact absurd stage (busy retries)
    | sending retries =>
      rw [c.look_sending stage quiet]
      exact c.sends_goOnSending retries progress
    | resting attempts length =>
      rw [c.look_resting stage quiet]
      cases progress <;> rfl
    | finished result => rw [c.look_finished stage]

theorem sends_look_of_ready (c : Call) (retries : UInt32) (progress : Progress)
    (stage : c.stage = .ready retries) (quiet : c.isFired = false) :
    (c.look progress).sends = c.sends ++ [c.request] := by
  rw [c.look_ready stage quiet, sends_goOnSending, sends_record_send]

end Call

namespace Course

/-- The token fired by a look changes nothing else. -/
theorem step_look (w : Course) (c : Call) (isOver fires : Bool) :
    (w.step c (.look isOver fires)).stage
        = (c.look (if isOver then w.progress c else .pending)).stage ∧
      (w.step c (.look isOver fires)).sends
        = (c.look (if isOver then w.progress c else .pending)).sends := by
  cases fires with
  | false => exact ⟨rfl, rfl⟩
  | true => exact ⟨rfl, rfl⟩

theorem counts_step (w : Course) (c : Call) (event : Event)
    (counted : c.stage.Counts c.sends.length) :
    (w.step c event).stage.Counts (w.step c event).sends.length := by
  cases event with
  | fire => exact counted
  | look isOver fires =>
    rw [(w.step_look c isOver fires).1, (w.step_look c isOver fires).2]
    exact c.counts_look (if isOver then w.progress c else .pending) counted

theorem sends_step_of_not_ready (w : Course) (c : Call) (event : Event)
    (busy : ∀ retries, c.stage ≠ .ready retries) : (w.step c event).sends = c.sends := by
  cases event with
  | fire => rfl
  | look isOver fires =>
    rw [(w.step_look c isOver fires).2]
    exact c.sends_look_of_not_ready (if isOver then w.progress c else .pending) busy

end Course

namespace Rehearsal

section
variable (policy : RetryPolicy) (request : Request) (token : Token) (draws : UInt32 → UInt64)
  (script : Script)

/-- A rehearsal that has come to where it stands by events on its course. Without a token, none of
them fires one. -/
structure Follows (r : Rehearsal) : Prop where
  events : ∃ events : List Event,
    r.call = (script.course draws).run (.fresh policy request) events ∧
    (token = .absent → ∀ event ∈ events, event.fires = false)
  script_eq : r.script = script.after r.call.sends.length
  counted : r.call.stage.Counts r.call.sends.length

variable {policy request token draws script}

theorem Follows.event {r : Rehearsal} (h : Follows policy request token draws script r)
    (event : Event) (allowed : token = .absent → event.fires = false) (left : Script)
    (clock : Nat)
    (left_eq : left = script.after ((script.course draws).step r.call event).sends.length) :
    Follows policy request token draws script
      { call := (script.course draws).step r.call event, script := left, clock } := by
  obtain ⟨⟨events, ran, quiet⟩, -, counted⟩ := h
  refine ⟨⟨events ++ [event], ?_, ?_⟩, left_eq, ?_⟩
  · rw [Course.run_append, ← ran]
    rfl
  · intro absent e found
    rcases List.mem_append.mp found with before | last
    · exact quiet absent e before
    · rw [List.mem_singleton.mp last]
      exact allowed absent
  · exact (script.course draws).counts_step r.call event counted

theorem Follows.isFired {r : Rehearsal} (h : Follows policy request token draws script r)
    (absent : token = .absent) : r.call.isFired = false := by
  obtain ⟨⟨events, ran, quiet⟩, -, -⟩ := h
  obtain ⟨looks, -, executed⟩ :=
    (script.course draws).exists_execute policy request events (quiet absent)
  rw [ran, executed]
  exact (script.course draws).isFired_execute policy request looks

/-- Between attempts the script is left alone. -/
theorem Follows.event_of_busy {r : Rehearsal} (h : Follows policy request token draws script r)
    (busy : ∀ retries, r.call.stage ≠ .ready retries) (event : Event)
    (allowed : token = .absent → event.fires = false) (clock : Nat) :
    Follows policy request token draws script
      { r with call := (script.course draws).step r.call event, clock } := by
  refine h.event event allowed r.script clock ?_
  rw [Course.sends_step_of_not_ready _ _ _ busy]
  exact h.script_eq

/-- Waiting is a look at the end, or the token and a look. -/
theorem Follows.wait {r : Rehearsal} (h : Follows policy request token draws script r)
    (busy : ∀ retries, r.call.stage ≠ .ready retries) (length : Duration) :
    Follows policy request token draws script
      (r.wait token length ((script.course draws).progress r.call)) := by
  unfold Rehearsal.wait
  split
  · next interrupted =>
    have present : token = .absent → Event.fire.fires = false := by
      intro absent
      rw [h.isFired absent, absent] at interrupted
      exact absurd interrupted Bool.false_ne_true
    have fired := h.event_of_busy busy .fire present r.clock
    exact fired.event_of_busy busy (.look false false) (fun _ => rfl) r.clock
  · exact h.event_of_busy busy (.look true false) (fun _ => rfl) _

/-- An attempt takes the step of its number. -/
theorem Follows.attempt {r : Rehearsal} (h : Follows policy request token draws script r)
    (retries : UInt32) (stage : r.call.stage = .ready retries) :
    Follows policy request token draws script (r.attempt token (draws (retries + 1))) := by
  unfold Rehearsal.attempt
  split
  · next fired =>
    refine h.event (.look false false) (fun _ => rfl) r.script r.clock ?_
    have still : (r.call.look .pending).sends = r.call.sends := by
      rw [r.call.look_of_fired .pending fired]
      split <;> rfl
    show r.script = script.after (r.call.look .pending).sends.length
    rw [still]
    exact h.script_eq
  · next unfired =>
    have quiet : r.call.isFired = false := Bool.eq_false_iff.mpr unfired
    have counted : retries = .ofNat r.call.sends.length := by
      have counted := h.counted
      rwa [stage] at counted
    have next := script.next_after r.call.sends.length
    rw [← h.script_eq] at next
    have ended : (script.course draws).progress r.call
        = .ended (script.stepAt r.call.sends.length).outcome (draws (retries + 1)) := by
      rw [counted, ofNat_retry_succ, Course.progress, stage]
      rfl
    have allowed : token = .absent →
        ((script.stepAt r.call.sends.length).fires && token.isPresent) = false := by
      intro same
      subst same
      exact Bool.and_false _
    have sent : ∀ isOver fires,
        ((script.course draws).step r.call (.look isOver fires)).sends
          = r.call.sends ++ [r.call.request] := by
      intro isOver fires
      rw [((script.course draws).step_look r.call isOver fires).2]
      exact r.call.sends_look_of_ready retries _ stage quiet
    have left : ∀ isOver fires, script.after (r.call.sends.length + 1)
        = script.after ((script.course draws).step r.call (.look isOver fires)).sends.length := by
      intro isOver fires
      rw [sent, List.length_append, List.length_singleton]
    simp only [next]
    split
    · rw [← ended]
      exact h.event (.look true _) allowed _ r.clock (left true _)
    · have started := h.event (.look false _) allowed _ r.clock (left false _)
      have sending : ∀ fires, ((script.course draws).step r.call (.look false fires)).stage
          = .sending retries := by
        intro fires
        rw [((script.course draws).step_look r.call false fires).1, r.call.look_ready stage quiet]
        rfl
      have same : ∀ fires, (script.course draws).progress
          ((script.course draws).step r.call (.look false fires))
            = (script.course draws).progress r.call := by
        intro fires
        rw [Course.progress, sending, sent, List.length_append, List.length_singleton,
          Nat.add_sub_cancel, Course.progress, stage]
      have waited := started.wait
        (fun n ready => by rw [sending] at ready; cases ready)
        (script.stepAt r.call.sends.length).latency
      rw [same, ended] at waited
      exact waited

theorem Follows.rest {r : Rehearsal} (h : Follows policy request token draws script r) :
    Follows policy request token draws script (r.rest token) := by
  unfold Rehearsal.rest
  split
  · next attempts length stage =>
    have waited := h.wait (fun n ready => by rw [stage] at ready; cases ready) length
    rwa [Course.progress, stage] at waited
  · exact h

theorem Follows.rounds {r : Rehearsal} (h : Follows policy request token draws script r)
    (n : Nat) : Follows policy request token draws script (rounds token draws n r) := by
  induction n generalizing r with
  | zero => exact h
  | succ n ih =>
    unfold Rehearsal.rounds
    split
    · next retries stage => exact ih (h.attempt retries stage).rest
    · exact h

variable (policy request token draws script)

theorem follows_start :
    Follows policy request token draws script
      { call := { policy, request, isFired := token == .before }, script } := by
  refine ⟨?_, rfl, rfl⟩
  cases token with
  | before => exact ⟨[.fire], rfl, by simp⟩
  | _ => exact ⟨[], rfl, by simp⟩

end

end Rehearsal

/-! ## The end -/

namespace Call

theorem isSome_look_of_fired (c : Call) (progress : Progress) (fired : c.isFired = true) :
    (c.look progress).result?.isSome = true := by
  rw [c.look_of_fired progress fired]
  split
  · next finished => exact finished
  · rfl

/-- The end of an attempt is the end of the call, or a retry is left. -/
theorem look_ended (c : Call) (retries : UInt32) (outcome : Outcome) (draw : UInt64)
    (stage : c.stage = .ready retries ∨ c.stage = .sending retries) :
    (c.look (.ended outcome draw)).result?.isSome = true ∨
      ∃ length, (c.look (.ended outcome draw)).stage = .resting (retries + 1) length ∧
        retries < c.policy.maxRetries := by
  by_cases fired : c.isFired = true
  · exact .inl (c.isSome_look_of_fired _ fired)
  · have quiet : c.isFired = false := Bool.eq_false_iff.mpr fired
    rcases stage with ready | sending
    · rw [c.look_ready ready quiet]
      exact (c.record (.send c.request)).settle_stage retries draw outcome
    · rw [c.look_sending sending quiet]
      exact c.settle_stage retries draw outcome

/-- The end of a rest is the end of the call, or the next attempt is due. -/
theorem look_rested (c : Call) (attempts : UInt32) (length : Duration)
    (stage : c.stage = .resting attempts length) :
    (c.look .rested).result?.isSome = true ∨ (c.look .rested).stage = .ready attempts := by
  by_cases fired : c.isFired = true
  · exact .inl (c.isSome_look_of_fired _ fired)
  · rw [c.look_resting stage (Bool.eq_false_iff.mpr fired)]
    exact .inr rfl

end Call

namespace Rehearsal

/-- Waiting ends the call, or looks at it at the end of the time. -/
theorem wait_call (r : Rehearsal) (token : Token) (length : Duration) (progress : Progress) :
    (r.wait token length progress).call.result?.isSome = true ∨
      (r.wait token length progress).call = r.call.look progress := by
  unfold wait
  split
  · exact .inl ((r.call.step .fire).isSome_look_of_fired .pending rfl)
  · exact .inr rfl

/-- An attempt is the end of the call, or a retry is left. -/
theorem attempt_stage (r : Rehearsal) (token : Token) (draw : UInt64) (retries : UInt32)
    (stage : r.call.stage = .ready retries) :
    (r.attempt token draw).call.result?.isSome = true ∨
      ∃ length, (r.attempt token draw).call.stage = .resting (retries + 1) length ∧
        retries < r.call.policy.maxRetries := by
  unfold attempt
  split
  · next fired => exact .inl (r.call.isSome_look_of_fired .pending fired)
  · next unfired =>
    have quiet : r.call.isFired = false := Bool.eq_false_iff.mpr unfired
    have refire : ∀ (fires : Bool) (c : Call), (if fires then c.step .fire else c).stage = c.stage ∧
        (if fires then c.step .fire else c).policy = c.policy := by
      intro fires c
      cases fires <;> exact ⟨rfl, rfl⟩
    generalize r.script.next = next
    obtain ⟨step, left⟩ := next
    simp only
    split
    · simp only [Call.result?, refire]
      exact r.call.look_ended retries step.outcome draw (.inl stage)
    · obtain ⟨stage_eq, policy_eq⟩ :=
        refire (step.fires && token.isPresent) (r.call.step (.look .pending))
      have sending : (r.call.look .pending).stage = .sending retries := by
        rw [r.call.look_ready stage quiet]
        rfl
      generalize (if (step.fires && token.isPresent) = true
        then (r.call.step (.look .pending)).step .fire
        else r.call.step (.look .pending)) = started at stage_eq policy_eq ⊢
      obtain finished | looked := wait_call { r with script := left, call := started } token
        step.latency (.ended step.outcome draw)
      · exact .inl finished
      · have policy : started.policy = r.call.policy :=
          policy_eq.trans (r.call.policy_look .pending)
        rw [looked, ← policy]
        exact started.look_ended retries step.outcome draw (.inr (stage_eq.trans sending))

theorem rest_of_finished (r : Rehearsal) (token : Token)
    (finished : r.call.result?.isSome = true) : r.rest token = r := by
  unfold rest
  split
  · next stage => simp [Call.result?, stage] at finished
  · rfl

theorem rounds_of_finished (r : Rehearsal) (token : Token) (draws : UInt32 → UInt64) (n : Nat)
    (finished : r.call.result?.isSome = true) : rounds token draws n r = r := by
  cases n with
  | zero => rfl
  | succ n =>
    unfold rounds
    split
    · next stage => simp [Call.result?, stage] at finished
    · rfl

/-- A round ends the call, or uses up a retry. -/
theorem round_stage (r : Rehearsal) (token : Token) (draw : UInt64) (retries : UInt32)
    (stage : r.call.stage = .ready retries) :
    ((r.attempt token draw).rest token).call.result?.isSome = true ∨
      (((r.attempt token draw).rest token).call.stage = .ready (retries + 1) ∧
        retries < r.call.policy.maxRetries) := by
  obtain finished | ⟨length, resting, retried⟩ := r.attempt_stage token draw retries stage
  · rw [rest_of_finished _ token finished]
    exact .inl finished
  · simp only [rest, resting]
    rcases (r.attempt token draw).wait_call token length .rested with finished | looked
    · exact .inl finished
    · rw [looked]
      rcases (r.attempt token draw).call.look_rested _ length resting with finished | ready
      · exact .inl finished
      · exact .inr ⟨ready, retried⟩

theorem rounds_of_ready (r : Rehearsal) (token : Token) (draws : UInt32 → UInt64) (n : Nat)
    (retries : UInt32) (stage : r.call.stage = .ready retries) :
    rounds token draws (n + 1) r
      = rounds token draws n ((r.attempt token (draws (retries + 1))).rest token) := by
  rw [rounds, stage]

section
variable {policy : RetryPolicy} {request : Request} {token : Token} {draws : UInt32 → UInt64}
  {script : Script}

theorem Follows.policy_eq {r : Rehearsal} (h : Follows policy request token draws script r) :
    r.call.policy = policy := by
  obtain ⟨events, ran, -⟩ := h.events
  rw [ran, Course.policy_run]
  rfl

/-- As many rounds as there are attempts left bring a call to its end. -/
theorem Follows.finishes {r : Rehearsal} (h : Follows policy request token draws script r)
    (n : Nat) (retries : UInt32) (stage : r.call.stage = .ready retries)
    (left : retries.toNat + n = policy.maxRetries.toNat) :
    (Rehearsal.rounds token draws (n + 1) r).call.result?.isSome = true := by
  induction n generalizing r retries with
  | zero =>
    rw [rounds_of_ready r token draws 0 retries stage]
    obtain finished | ⟨-, retried⟩ := r.round_stage token (draws (retries + 1)) retries stage
    · exact finished
    · rw [h.policy_eq, UInt32.lt_iff_toNat_lt] at retried
      omega
  | succ n ih =>
    rw [rounds_of_ready r token draws (n + 1) retries stage]
    obtain finished | ⟨ready, retried⟩ := r.round_stage token (draws (retries + 1)) retries stage
    · rw [rounds_of_finished _ token draws _ finished]
      exact finished
    · apply ih (h.attempt retries stage).rest (retries + 1) ready
      have bound := policy.maxRetries.toNat_lt_size
      have next : (retries + 1).toNat = retries.toNat + 1 := by
        rw [UInt32.toNat_add, UInt32.toNat_one]
        simp only [UInt32.size] at bound
        omega
      omega

end

/-- A rehearsal is a run of a fresh call on the course its script lays out, and the call is finished
at its end. Without a token it is a run of looks alone, so its result is read off the outcome that
settles the call. -/
theorem run_follows_course (policy : RetryPolicy) (request : Request) (token : Token)
    (draws : UInt32 → UInt64) (script : Script) :
    let call := (run policy request token draws script).call
    let w := script.course draws
    (∃ events, call = w.run (.fresh policy request) events) ∧ call.result?.isSome = true ∧
    (token = .absent → ∃ looks, call = w.execute policy request looks ∧
      call.result? = some (conclusion request (.ofNat (w.retries policy + 1))
        (w.outcome (w.retries policy)))) := by
  intro call w
  have start := follows_start policy request token draws script
  have follows := start.rounds (policy.maxRetries.toNat + 1)
  have finished : call.result?.isSome = true :=
    start.finishes policy.maxRetries.toNat 0 rfl (Nat.zero_add _)
  obtain ⟨events, ran, quiet⟩ := follows.events
  refine ⟨⟨events, ran⟩, finished, fun absent => ?_⟩
  obtain ⟨looks, -, executed⟩ := w.exists_execute policy request events (quiet absent)
  have whole : call = w.execute policy request looks := ran.trans executed
  refine ⟨looks, whole, ?_⟩
  have result := (w.carries_execute policy request looks).result.1
  rw [← whole] at result
  split at result
  · exact result
  · rw [result] at finished
    cases finished

end Rehearsal
end DocSearch.Http
