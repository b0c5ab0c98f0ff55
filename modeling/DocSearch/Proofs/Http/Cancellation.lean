import DocSearch.Http.Rehearsal
import DocSearch.Proofs.Http.Settling

/-!
# How a call is cancelled

Up to the event that fires its token, a call is one without a token. From then on it starts
nothing, and unless it is finished the next look ends it, whatever that look would have found. The
number in the error is that of the attempt at hand: the one under way or rested after, or else the
one that would have been next.
-/
namespace DocSearch.Http

namespace Call

/-- The number of the attempt at hand, counted from one. -/
def attemptAtHand (c : Call) : UInt32 :=
  match c.stage with
  | .ready retries => retries + 1
  | .sending retries => retries + 1
  | .resting attempts _ => attempts
  | .finished _ => 0

/-- Whether an attempt, or the rest after one, is under way. -/
def isUnderWay (c : Call) : Bool :=
  match c.stage with
  | .sending _ | .resting _ _ => true
  | .ready _ | .finished _ => false

theorem look_of_fired (c : Call) (progress : Progress) (fired : c.isFired = true) :
    c.look progress =
      if c.result?.isSome then c else c.finish (.error (.cancelled c.attemptAtHand)) := by
  unfold look result? attemptAtHand
  cases stage_eq : c.stage <;> simp [fired]

end Call

namespace Course

theorem step_of_fired (w : Course) (c : Call) (event : Event) (fired : c.isFired = true) :
    w.step c event =
      if event.isLook = true ∧ c.result? = none then
        c.finish (.error (.cancelled c.attemptAtHand))
      else c := by
  have refire : ∀ d : Call, d.isFired = true → d.step .fire = d := by
    intro d again
    cases d
    simp only [Call.step, ← again]
  cases event with
  | fire => simpa [step, Event.isLook] using refire c fired
  | look isOver fires =>
    simp only [step, Call.step, c.look_of_fired _ fired, Event.isLook, true_and]
    cases result : c.result? with
    | some result =>
      simp only [Option.isSome_some, if_true, reduceCtorEq, if_false]
      cases fires with
      | false => rfl
      | true => exact refire c fired
    | none =>
      simp only [Option.isSome_none, Bool.false_eq_true, if_false, if_true]
      cases fires with
      | false => rfl
      | true => exact refire (c.finish _) fired

/-- Nothing is started once the token is fired, and a finished call keeps its result. -/
theorem run_of_fired (w : Course) (c : Call) (events : List Event) (fired : c.isFired = true) :
    (w.run c events).actions = c.actions ∧
      (c.result?.isSome = true → (w.run c events).result? = c.result?) := by
  induction events generalizing c with
  | nil => exact ⟨rfl, fun _ => rfl⟩
  | cons event events ih =>
    rw [run_cons, w.step_of_fired c event fired]
    split
    next ended =>
      refine ⟨(ih (c.finish _) fired).1, fun some => ?_⟩
      rw [ended.2] at some
      cases some
    next => exact ih c fired

/-- The first look after the token is fired ends a call that is not finished. -/
theorem run_of_fired_unfinished (w : Course) (c : Call) (events : List Event)
    (fired : c.isFired = true) (unfinished : c.result? = none)
    (looked : ∃ event ∈ events, event.isLook = true) :
    (w.run c events).result? = some (.error (.cancelled c.attemptAtHand)) := by
  induction events with
  | nil => simp at looked
  | cons event events ih =>
    rw [run_cons, w.step_of_fired c event fired]
    by_cases first : event.isLook = true
    · rw [if_pos ⟨first, unfinished⟩]
      exact (w.run_of_fired (c.finish _) events fired).2 rfl
    · rw [if_neg (fun both => first both.1)]
      obtain ⟨later, member, isLook⟩ := looked
      rcases List.mem_cons.mp member with rfl | member
      · exact absurd isLook first
      · exact ih ⟨later, member, isLook⟩

/-- Events that do not fire the token are looks at a call without one. -/
theorem exists_execute (w : Course) (policy : RetryPolicy) (request : Request)
    (events : List Event) (quiet : ∀ event ∈ events, event.fires = false) :
    ∃ looks : List Bool, looks.length = events.length ∧
      w.run (.fresh policy request) events = w.execute policy request looks := by
  have isMap : ∃ looks : List Bool, looks.length = events.length ∧
      events = looks.map fun isOver => .look isOver false := by
    induction events with
    | nil => exact ⟨[], rfl, rfl⟩
    | cons event events ih =>
      obtain ⟨looks, length, same⟩ := ih (fun e member => quiet e (List.mem_cons_of_mem _ member))
      have still := quiet event List.mem_cons_self
      cases event with
      | fire => cases still
      | look isOver fires =>
        cases still
        exact ⟨isOver :: looks, congrArg (· + 1) length, by rw [List.map_cons, ← same]⟩
  obtain ⟨looks, length, same⟩ := isMap
  exact ⟨looks, length, by rw [execute, ← same]⟩

/-- The event that fires the token still leaves the call on its course. -/
theorem Carries.step_fires {w : Course} {policy : RetryPolicy} {request : Request} {ended : Nat}
    {c : Call} (h : w.Carries policy request ended c) (quiet : c.isFired = false) (event : Event)
    (fires : event.fires = true) :
    (∃ later, w.Carries policy request later (w.step c event)) ∧
      (w.step c event).isFired = true := by
  cases event with
  | fire => exact ⟨⟨ended, h.policy_eq, h.request_eq, h.standing⟩, rfl⟩
  | look isOver fires =>
    cases fires
    obtain ⟨policy_eq, request_eq, standing⟩ := h.look quiet isOver
    exact ⟨⟨_, policy_eq, request_eq, standing⟩, rfl⟩

/-- The attempt at hand is the last one sent if it is under way, and else the next. -/
theorem Carries.attemptAtHand {w : Course} {policy : RetryPolicy} {request : Request}
    {ended : Nat} {c : Call} (h : w.Carries policy request ended c)
    (room : policy.maxRetries.toNat < UInt32.size - 1) (unfinished : c.result? = none) :
    (c.isUnderWay = true ∧ c.sends.length = c.attemptAtHand.toNat) ∨
      (c.isUnderWay = false ∧ c.sends.length + 1 = c.attemptAtHand.toNat) := by
  obtain ⟨-, -, standing⟩ := h
  have bound := w.retries_le policy
  have counted : ∀ n, n ≤ w.retries policy → (UInt32.ofNat n + 1).toNat = n + 1 := by
    intro n reached
    rw [ofNat_retry_succ, UInt32.toNat_ofNat_of_lt' (by omega)]
  rw [Call.result?] at unfinished
  rw [Call.isUnderWay, Call.attemptAtHand]
  generalize stage_eq : c.stage = stage, actions_eq : c.actions = actions at standing unfinished ⊢
  cases standing with
  | ready n reached =>
    right
    rw [w.sends_rounds policy request n c actions_eq, List.length_replicate]
    exact ⟨rfl, (counted n reached).symm⟩
  | sending n reached =>
    left
    rw [w.sends_rounds_send policy request n c actions_eq, List.length_replicate]
    exact ⟨rfl, (counted n reached).symm⟩
  | resting n reached =>
    left
    rw [w.sends_rounds policy request (n + 1) c actions_eq, List.length_replicate]
    rw [← ofNat_retry_succ]
    exact ⟨rfl, (counted n (Nat.le_of_lt reached)).symm⟩
  | finished ended reached => cases unfinished

/-- A call on its course whose token is fired is ended by the next look, with the number of the
attempts sent if one of them, or the rest after it, is under way, and with one more if not. -/
theorem Carries.cancelled {w : Course} {policy : RetryPolicy} {request : Request} {ended : Nat}
    {c : Call} (h : w.Carries policy request ended c)
    (room : policy.maxRetries.toNat < UInt32.size - 1) (fired : c.isFired = true)
    (unfinished : c.result? = none) (events : List Event)
    (looked : ∃ event ∈ events, event.isLook = true) :
    ∃ k : UInt32, (w.run c events).result? = some (.error (.cancelled k)) ∧
      (c.sends.length = k.toNat ∨ c.sends.length + 1 = k.toNat) ∧
      (c.sends.length = k.toNat ↔ c.isUnderWay = true) := by
  refine ⟨c.attemptAtHand, w.run_of_fired_unfinished c events fired unfinished looked, ?_⟩
  rcases h.attemptAtHand room unfinished with ⟨underWay, number⟩ | ⟨idle, number⟩
  · exact ⟨Or.inl number, iff_of_true number underWay⟩
  · refine ⟨Or.inr number, iff_of_false (by omega) ?_⟩
    rw [idle]
    exact Bool.false_ne_true

/-- A call on its course has done a beginning of what a finished one without a token did, and all
of it, with the same result, if it is finished itself. -/
theorem Carries.of_execute {w : Course} {policy : RetryPolicy} {request : Request} {ended : Nat}
    {c : Call} (h : w.Carries policy request ended c) (looks : List Bool)
    (complete : (w.execute policy request looks).result?.isSome = true) :
    c.actions <+: (w.execute policy request looks).actions ∧
      (c.result?.isSome = true →
        c.result? = (w.execute policy request looks).result? ∧
          c.actions = (w.execute policy request looks).actions) := by
  obtain ⟨result, whole_actions⟩ := (w.carries_execute policy request looks).result
  have enough : 2 * w.retries policy + 1 ≤ looks.count true := by
    by_contra few
    rw [if_neg few] at result
    rw [result] at complete
    cases complete
  rw [whole_actions enough]
  refine ⟨h.actions_prefix, fun finished => ?_⟩
  obtain ⟨own, own_actions⟩ := h.result
  have own_enough : 2 * w.retries policy + 1 ≤ ended := by
    by_contra few
    rw [if_neg few] at own
    rw [own] at finished
    cases finished
  rw [own, if_pos own_enough, result, if_pos enough]
  exact ⟨rfl, own_actions own_enough⟩

/-- A token fired by any event, between two looks or within one. Up to that event the call is one
without a token; after it nothing is started. If the call is not finished by then, the next look
ends it as cancelled, with the number of attempts sent if one of them, or the rest after it, was
under way, and with one more if the next was about to be sent. In any case it has done a beginning
of what the call without a token does on the same course, and the same with the same result if it
was finished by then. -/
theorem cancelled_unless_finished (w : Course) (policy : RetryPolicy) (request : Request)
    (room : policy.maxRetries.toNat < UInt32.size - 1) (before : List Event) (event : Event)
    (after : List Event) (quiet : ∀ e ∈ before, e.fires = false) (fires : event.fires = true) :
    let waiting := w.run (.fresh policy request) before
    let fired := w.run (.fresh policy request) (before ++ [event])
    let final := w.run (.fresh policy request) (before ++ event :: after)
    (∃ looks : List Bool, looks.length = before.length ∧
      waiting = w.execute policy request looks) ∧
    (event = .fire → fired.actions = waiting.actions ∧ fired.result? = waiting.result?) ∧
    final.actions = fired.actions ∧
    (fired.result? = none → (∃ e ∈ after, e.isLook = true) →
      ∃ k : UInt32, final.result? = some (.error (.cancelled k)) ∧
        (final.sends.length = k.toNat ∨ final.sends.length + 1 = k.toNat) ∧
        (final.sends.length = k.toNat ↔ fired.isUnderWay = true)) ∧
    (fired.result?.isSome = true → final.result? = fired.result?) ∧
    (∀ looks : List Bool,
      let whole := w.execute policy request looks
      whole.result?.isSome = true →
        final.actions <+: whole.actions ∧ final.sends <+: whole.sends ∧
        (fired.result?.isSome = true →
          final.result? = whole.result? ∧ final.actions = whole.actions)) := by
  intro waiting fired final
  obtain ⟨looks, length, executed⟩ := w.exists_execute policy request before quiet
  have fired_eq : fired = w.step waiting event := by
    simp only [fired, waiting, run_append, run_cons, run_nil]
  have final_eq : final = w.run fired after := by
    rw [fired_eq]
    simp only [final, waiting, run_append, run_cons]
  have carried : w.Carries policy request (looks.count true) waiting := by
    simp only [waiting, executed]
    exact w.carries_execute policy request looks
  have unfired : waiting.isFired = false := by
    simp only [waiting, executed]
    exact w.isFired_execute policy request looks
  obtain ⟨⟨ended, onCourse⟩, isFired⟩ := carried.step_fires unfired event fires
  rw [← fired_eq] at onCourse isFired
  obtain ⟨actions, kept⟩ := w.run_of_fired fired after isFired
  rw [← final_eq] at actions kept
  have sends : final.sends = fired.sends := by rw [Call.sends, actions, Call.sends]
  refine ⟨⟨looks, length, executed⟩, ?_, actions, ?_, kept, ?_⟩
  · intro between
    rw [fired_eq, between]
    exact ⟨rfl, rfl⟩
  · intro unfinished looked
    rw [sends, final_eq]
    exact onCourse.cancelled room isFired unfinished after looked
  · intro others whole complete
    obtain ⟨begun, same⟩ := onCourse.of_execute others complete
    rw [← actions] at begun
    refine ⟨begun, begun.filterMap _, fun finished => ?_⟩
    obtain ⟨result, all⟩ := same finished
    exact ⟨(kept finished).trans result, actions.trans all⟩

/-- The second attempt is answered at the instant at which the token is fired: the answer is not
returned. -/
theorem cancelled_as_answer_arrives :
    let before := [.look true false, .look true false, .look false false]
    let final := answeredSecond.run (.fresh {} startPage)
      (before ++ .fire :: [.look true false])
    ({} : RetryPolicy).maxRetries.toNat < UInt32.size - 1 ∧
    (∀ e ∈ before, e.fires = false) ∧ Event.fire.fires = true ∧
    final.sends = [startPage, startPage] ∧ final.result? = some (.error (.cancelled 2)) := by
  intro before final
  have room : ({} : RetryPolicy).maxRetries.toNat < UInt32.size - 1 := by decide
  have quiet : ∀ e ∈ before, e.fires = false := by decide
  obtain ⟨-, -, actions, cancelled, -⟩ := answeredSecond.cancelled_unless_finished {} startPage
    room before .fire [.look true false] quiet rfl
  have sends : final.sends = [startPage, startPage] := by
    rw [Call.sends, actions]
    rfl
  obtain ⟨k, result, -, counted⟩ := cancelled rfl ⟨_, List.mem_singleton_self _, rfl⟩
  have two : 2 = k.toNat := by
    have length := counted.mpr rfl
    rwa [sends] at length
  have number : k = 2 := UInt32.toNat_inj.mp two.symm
  exact ⟨room, quiet, rfl, sends, by rw [result, number]⟩

/-- A token fired by the attempt itself is seen too late if the attempt is over at once: the
response is returned. With any time in between, the call is cancelled. -/
theorem response_outruns_token :
    let step : ScriptStep := { outcome := .response ⟨200, [0x7B, 0x7D]⟩, fires := true }
    let rehearse (latency : Duration) :=
      Rehearsal.run {} startPage .never (fun _ => 0) { steps := [{ step with latency }] }
    (rehearse ⟨0⟩).call.isFired = true ∧
    (rehearse ⟨0⟩).call.sends = [startPage] ∧
    (rehearse ⟨0⟩).call.result? = some (.ok (.object [])) ∧
    (rehearse ⟨1⟩).call.result? = some (.error (.cancelled 1)) := by
  decide +kernel

end Course
end DocSearch.Http
