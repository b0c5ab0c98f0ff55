import DocSearch.Proofs.Http.Rehearsal
import Mathlib.Data.List.Induction
import Mathlib.Logic.Function.Basic

/-!
# Calls that share a script

Any number of calls of one client may be under way at once, over one transport. What the transport
will answer is laid out in one course, and an attempt takes the next place of it as it starts,
whichever call it belongs to. Events of the calls come in any order. Each place is taken by one
attempt, and a call does and comes to what it would alone, on a course made of the places that its
own attempts took. So other calls and their tokens matter to it only in what they leave for it to
take.
-/
namespace DocSearch.Http

/-- Calls under way together, and the places of the course that their attempts took. -/
structure Pool (ι : Type) where
  call : ι → Call
  /-- The places taken by the attempts of a call, one after the other. -/
  places : ι → List Nat
  /-- The place that the next attempt takes, of whichever call. -/
  next : Nat

/-! ## Attempts of one call -/

namespace Call

/-- Whether the next look at a call starts an attempt. -/
def isStarting (c : Call) : Bool :=
  match c.stage with
  | .ready _ => !c.isFired
  | _ => false

theorem isStarting_iff (c : Call) :
    c.isStarting = true ↔ (∃ retries, c.stage = .ready retries) ∧ c.isFired = false := by
  cases stage : c.stage <;> simp [isStarting, stage]

/-- A look sends the request exactly if it starts an attempt. -/
theorem sends_look (c : Call) (progress : Progress) :
    (c.look progress).sends = if c.isStarting then c.sends ++ [c.request] else c.sends := by
  split
  next starting =>
    obtain ⟨⟨retries, stage⟩, quiet⟩ := c.isStarting_iff.mp starting
    exact c.sends_look_of_ready retries progress stage quiet
  next idle =>
    by_cases fired : c.isFired = true
    · rw [c.look_of_fired progress fired]
      split <;> rfl
    · refine c.sends_look_of_not_ready progress fun retries stage => ?_
      exact idle (c.isStarting_iff.mpr ⟨⟨retries, stage⟩, Bool.eq_false_iff.mpr fired⟩)

/-- An attempt that is under way after a look was so before, or was started by it. -/
theorem sending_of_look (c : Call) (progress : Progress) (retries : UInt32)
    (sending : (c.look progress).stage = .sending retries) :
    c.isStarting = true ∨ ∃ retries, c.stage = .sending retries := by
  by_cases fired : c.isFired = true
  · rw [c.look_of_fired progress fired] at sending
    split at sending
    · exact .inr ⟨retries, sending⟩
    · cases sending
  · have quiet : c.isFired = false := Bool.eq_false_iff.mpr fired
    cases stage : c.stage with
    | ready retries => exact .inl (c.isStarting_iff.mpr ⟨⟨retries, stage⟩, quiet⟩)
    | sending retries => exact .inr ⟨retries, rfl⟩
    | resting attempts length =>
      rw [c.look_resting stage quiet] at sending
      cases progress <;> simp [stage] at sending
    | finished result =>
      rw [c.look_finished stage, stage] at sending
      cases sending

end Call

/-! ## Steps of a pool -/

namespace Pool

variable {ι : Type}

/-- Calls of one client before anything happened to them. -/
def fresh (policy : RetryPolicy) (request : ι → Request) : Pool ι :=
  { call i := .fresh policy (request i), places _ := [], next := 0 }

/-- Whether an event starts an attempt of the call it happens to. -/
def starts (p : Pool ι) (i : ι) (event : Event) : Bool := event.isLook && (p.call i).isStarting

/-- What a call is told once the attempt or the rest at hand is over: an attempt ends as the place
says that it took. -/
def progress (w : Course) (p : Pool ι) (i : ι) : Progress :=
  match (p.call i).stage with
  | .ready _ | .sending _ =>
    match (p.places i).getLast? with
    | some place => .ended (w.outcome place) (w.draw place)
    | none => .pending
  | .resting _ _ => .rested
  | .finished _ => .pending

/-- What an event makes of the call it happens to. -/
def moved (w : Course) (p : Pool ι) (i : ι) : Event → Call
  | .fire => (p.call i).step .fire
  | .look isOver fires =>
    let looked := (p.call i).step (.look (if isOver then p.progress w i else .pending))
    if fires then looked.step .fire else looked

theorem sends_moved (w : Course) (p : Pool ι) (i : ι) (event : Event) :
    (p.moved w i event).sends =
      if p.starts i event then (p.call i).sends ++ [(p.call i).request]
      else (p.call i).sends := by
  cases event with
  | fire => rfl
  | look isOver fires =>
    have looked := (p.call i).sends_look (if isOver then p.progress w i else .pending)
    cases fires with
    | false => exact looked
    | true => exact looked

variable [DecidableEq ι]

/-- An attempt that an event starts takes the next place for its call. -/
def take (p : Pool ι) (i : ι) (event : Event) : Pool ι :=
  if p.starts i event then
    { p with places := Function.update p.places i (p.places i ++ [p.next]), next := p.next + 1 }
  else p

/-- An event of one call. -/
def step (w : Course) (p : Pool ι) (i : ι) (event : Event) : Pool ι :=
  let p := p.take i event
  { p with call := Function.update p.call i (p.moved w i event) }

/-- The pool after events of its calls, in the order in which they happened. -/
def run (w : Course) (p : Pool ι) (events : List (ι × Event)) : Pool ι :=
  events.foldl (fun p e => p.step w e.1 e.2) p

/-- The events of one call, in order. -/
def own (i : ι) (events : List (ι × Event)) : List Event :=
  events.filterMap fun e => if e.1 = i then some e.2 else none

section
variable (w : Course) (p : Pool ι)

theorem own_of_ne {i j : ι} (other : i ≠ j) (before after : List (ι × Event)) (event : Event) :
    own j (before ++ (i, event) :: after) = own j (before ++ after) := by
  simp [own, other]

theorem run_concat (events : List (ι × Event)) (i : ι) (event : Event) :
    p.run w (events ++ [(i, event)]) = (p.run w events).step w i event := by
  simp only [run, List.foldl_append, List.foldl_cons, List.foldl_nil]

theorem own_concat (i j : ι) (events : List (ι × Event)) (event : Event) :
    own j (events ++ [(i, event)]) = own j events ++ if i = j then [event] else [] := by
  by_cases same : i = j <;> simp [own, same]

theorem call_take (i : ι) (event : Event) : (p.take i event).call = p.call := by
  rw [take]
  split <;> rfl

theorem places_take (i j : ι) (event : Event) :
    (p.take i event).places j =
      if i = j ∧ p.starts i event = true then p.places j ++ [p.next] else p.places j := by
  by_cases started : p.starts i event = true
  · by_cases same : i = j
    · subst same
      simp [take, started]
    · simp [take, started, same, Function.update_of_ne (Ne.symm same)]
  · simp [take, started]

theorem next_take (i : ι) (event : Event) :
    (p.take i event).next = p.next + (p.starts i event).toNat := by
  cases started : p.starts i event <;> simp [take, started]

/-- The places of a call only grow at the end. -/
theorem places_grow (i j : ι) (event : Event) :
    p.places j <+: (p.step w i event).places j := by
  show p.places j <+: (p.take i event).places j
  rw [places_take]
  split
  · exact List.prefix_append _ _
  · exact List.prefix_rfl

theorem call_step (i : ι) (event : Event) :
    (p.step w i event).call = Function.update p.call i ((p.take i event).moved w i event) := by
  show Function.update (p.take i event).call i _ = _
  rw [call_take]

/-- What happens to one call leaves every other call as it is. -/
theorem call_step_of_ne {i j : ι} (other : i ≠ j) (event : Event) :
    (p.step w i event).call j = p.call j := by
  rw [call_step, Function.update_of_ne (Ne.symm other)]

theorem call_step_self (i : ι) (event : Event) :
    (p.step w i event).call i = (p.take i event).moved w i event := by
  rw [call_step, Function.update_self]

end

/-! ## The places taken -/

/-- Every attempt has taken a place of its own, and no place is left out. -/
structure TakesInTurn (p : Pool ι) : Prop where
  counted : ∀ i, (p.places i).length = (p.call i).sends.length
  underWay : ∀ i retries, (p.call i).stage = .sending retries → p.places i ≠ []
  /-- The attempts of a call take their places in the order in which they are made. -/
  ordered : ∀ i, (p.places i).Pairwise (· < ·)
  taken : ∀ place, place < p.next ↔ ∃ i, place ∈ p.places i
  apart : ∀ i j place, place ∈ p.places i → place ∈ p.places j → i = j

omit [DecidableEq ι] in
theorem takesInTurn_fresh (policy : RetryPolicy) (request : ι → Request) :
    (fresh policy request).TakesInTurn := by
  refine ⟨fun _ => rfl, fun i retries sending => ?_, fun _ => .nil, ?_, ?_⟩
  · cases sending
  · simp [fresh]
  · simp [fresh]

theorem TakesInTurn.take {p : Pool ι} (h : p.TakesInTurn) (i : ι) (event : Event) :
    (∀ j, ((p.take i event).places j).Pairwise (· < ·)) ∧
    (∀ place, place < (p.take i event).next ↔ ∃ j, place ∈ (p.take i event).places j) ∧
    (∀ j k place, place ∈ (p.take i event).places j → place ∈ (p.take i event).places k →
      j = k) := by
  obtain ⟨-, -, ordered, taken, apart⟩ := h
  cases started : p.starts i event with
  | false => simpa [Pool.take, started] using ⟨ordered, taken, apart⟩
  | true =>
    have places : ∀ j, (p.take i event).places j =
        if i = j then p.places j ++ [p.next] else p.places j := by
      intro j
      rw [places_take, started]
      simp
    have below : ∀ j, ∀ place ∈ p.places j, place < p.next := fun j place member =>
      (taken place).mpr ⟨j, member⟩
    have mem : ∀ j place, place ∈ (p.take i event).places j ↔
        place ∈ p.places j ∨ (i = j ∧ place = p.next) := by
      intro j place
      rw [places]
      by_cases same : i = j <;> simp [same]
    refine ⟨fun j => ?_, fun place => ?_, fun j k place first second => ?_⟩
    · rw [places]
      split
      · rw [List.pairwise_append]
        refine ⟨ordered j, List.pairwise_singleton _ _, fun place member last isLast => ?_⟩
        rw [List.mem_singleton.mp isLast]
        exact below j place member
      · exact ordered j
    · simp only [mem, next_take, started, Bool.toNat_true, Nat.lt_succ_iff_lt_or_eq, taken]
      constructor
      · rintro (⟨j, member⟩ | last)
        · exact ⟨j, .inl member⟩
        · exact ⟨i, .inr ⟨rfl, last⟩⟩
      · rintro ⟨j, member | ⟨-, last⟩⟩
        · exact .inl ⟨j, member⟩
        · exact .inr last
    · rw [mem] at first second
      -- the place taken now is none of those before it
      have fresh : ∀ j, p.next ∉ p.places j := fun j member =>
        Nat.lt_irrefl _ (below j _ member)
      rcases first with first | ⟨rfl, rfl⟩ <;> rcases second with second | ⟨rfl, last⟩
      · exact apart j k place first second
      · exact absurd (last ▸ first) (fresh j)
      · exact absurd second (fresh k)
      · rfl

theorem TakesInTurn.step {p : Pool ι} (h : p.TakesInTurn) (w : Course) (i : ι) (event : Event) :
    (p.step w i event).TakesInTurn := by
  obtain ⟨ordered, taken, apart⟩ := h.take i event
  refine ⟨fun j => ?_, fun j retries sending => ?_, ordered, taken, apart⟩
  · show ((p.take i event).places j).length = _
    rw [places_take]
    by_cases same : i = j
    · subst same
      rw [call_step_self, sends_moved, call_take]
      have starts : (p.take i event).starts i event = p.starts i event := by
        rw [Pool.starts, call_take, Pool.starts]
      rw [starts]
      cases p.starts i event <;> simp [h.counted]
    · rw [call_step_of_ne w p same, ← h.counted]
      simp [same]
  · show (p.take i event).places j ≠ []
    rw [places_take]
    by_cases same : i = j
    · subst same
      rw [call_step_self] at sending
      cases event with
      | fire =>
        rw [moved, call_take] at sending
        simpa [starts, Event.isLook] using h.underWay i retries sending
      | look isOver fires =>
        have looked : ((p.call i).look (if isOver then (p.take i (.look isOver fires)).progress w i
            else .pending)).stage = .sending retries := by
          rw [moved, call_take] at sending
          cases fires <;> exact sending
        rcases (p.call i).sending_of_look _ retries looked with starting | ⟨retries, before⟩
        · simp [starts, Event.isLook, starting]
        · have already := h.underWay i retries before
          split
          · exact List.append_ne_nil_of_left_ne_nil already _
          · exact already
    · rw [call_step_of_ne w p same] at sending
      simpa [same] using h.underWay j retries sending

theorem TakesInTurn.run {p : Pool ι} (h : p.TakesInTurn) (w : Course)
    (events : List (ι × Event)) : (p.run w events).TakesInTurn := by
  induction events generalizing p with
  | nil => exact h
  | cons e events ih => exact ih (h.step w e.1 e.2)

omit [DecidableEq ι] in
/-- A place that was taken was taken by one attempt of one call. -/
theorem TakesInTurn.existsUnique {p : Pool ι} (h : p.TakesInTurn) (place : Nat)
    (taken : place < p.next) :
    ∃! attempt : ι × Nat, (p.places attempt.1)[attempt.2]? = some place := by
  obtain ⟨i, member⟩ := (h.taken place).mp taken
  obtain ⟨n, found⟩ := List.mem_iff_getElem?.mp member
  refine ⟨(i, n), found, ?_⟩
  rintro ⟨j, m⟩ found'
  obtain rfl : j = i := h.apart j i place (List.mem_iff_getElem?.mpr ⟨m, found'⟩) member
  obtain ⟨below, _⟩ := List.getElem?_eq_some_iff.mp found
  have distinct : (p.places j).Nodup := (h.ordered j).imp Nat.ne_of_lt
  exact congrArg (Prod.mk j) ((List.getElem?_inj below distinct).mp (found.trans found'.symm)).symm

end Pool

/-! ## Calls alone -/

/-- The attempts of one course end as those at these places of another, one after the other. -/
def Course.Visits (v w : Course) (places : List Nat) : Prop :=
  ∀ n place, places[n]? = some place → v.outcome n = w.outcome place ∧ v.draw n = w.draw place

theorem Course.Visits.of_prefix {v w : Course} {earlier later : List Nat}
    (visits : v.Visits w later) (isPrefix : earlier <+: later) : v.Visits w earlier := by
  intro n place found
  obtain ⟨rest, rfl⟩ := isPrefix
  refine visits n place ?_
  rw [List.getElem?_append_left (List.getElem?_eq_some_iff.mp found).1]
  exact found

/-- The last of the attempts ends as the last of the places says. -/
theorem Course.Visits.last {v w : Course} {places : List Nat} (visits : v.Visits w places)
    (nonempty : places ≠ []) : ∃ place, places.getLast? = some place ∧
      v.outcome (places.length - 1) = w.outcome place ∧
      v.draw (places.length - 1) = w.draw place := by
  obtain ⟨place, last⟩ := Option.isSome_iff_exists.mp (List.getLast?_isSome.mpr nonempty)
  refine ⟨place, last, visits _ place ?_⟩
  rw [← List.getLast?_eq_getElem?, last]

namespace Pool

variable {ι : Type} [DecidableEq ι]

/-- A call that is looked at is told what it would be told on a course that visits its places. -/
theorem TakesInTurn.progress_eq {p : Pool ι} (h : p.TakesInTurn) {v w : Course} (i : ι)
    (event : Event) (looked : event.isLook = true) (quiet : (p.call i).isFired = false)
    (visits : v.Visits w ((p.take i event).places i)) :
    (p.take i event).progress w i = v.progress (p.call i) := by
  have counted := h.counted i
  rw [places_take] at visits
  rw [progress, call_take, places_take, Course.progress]
  cases stage : (p.call i).stage with
  | ready retries =>
    have started : p.starts i event = true := by
      simp [starts, looked, (p.call i).isStarting_iff, stage, quiet]
    rw [if_pos ⟨rfl, started⟩] at visits ⊢
    obtain ⟨place, last, outcome, draw⟩ :=
      visits.last (List.append_ne_nil_of_right_ne_nil _ (by simp))
    rw [List.length_append, List.length_singleton, Nat.add_sub_cancel, counted] at outcome draw
    simp only [last, outcome, draw]
  | sending retries =>
    have idle : ¬(i = i ∧ p.starts i event = true) := by
      simp [starts, Call.isStarting, stage]
    rw [if_neg idle] at visits ⊢
    obtain ⟨place, last, outcome, draw⟩ := visits.last (h.underWay i retries stage)
    rw [counted] at outcome draw
    simp only [last, outcome, draw]
  | resting attempts length => rfl
  | finished result => rfl

/-- An event is to a call what it is to the call on a course that visits its places. -/
theorem TakesInTurn.moved_eq {p : Pool ι} (h : p.TakesInTurn) {v w : Course} (i : ι) (event : Event)
    (visits : v.Visits w ((p.take i event).places i)) :
    (p.take i event).moved w i event = v.step (p.call i) event := by
  cases event with
  | fire => rw [moved, call_take, Course.step]
  | look isOver fires =>
    have told : (p.call i).step (.look (if isOver then (p.take i (.look isOver fires)).progress w i
        else .pending)) =
        (p.call i).step (.look (if isOver then v.progress (p.call i) else .pending)) := by
      by_cases fired : (p.call i).isFired = true
      · -- a call whose token is fired does not ask
        exact ((p.call i).look_of_fired _ fired).trans ((p.call i).look_of_fired _ fired).symm
      · rw [h.progress_eq i _ rfl (Bool.eq_false_iff.mpr fired) visits]
    simp only [moved, call_take, Course.step, told]

/-- In a pool a call is what it would be alone after its own events, on any course that visits the
places of its attempts. -/
theorem call_run (w : Course) (policy : RetryPolicy) (request : ι → Request)
    (events : List (ι × Event)) (i : ι) (v : Course)
    (visits : v.Visits w (((fresh policy request).run w events).places i)) :
    ((fresh policy request).run w events).call i =
      v.run (.fresh policy (request i)) (own i events) := by
  -- from the end, so that the course may visit places that are taken later
  induction events using List.reverseRecOn with
  | nil => rfl
  | append_singleton events e ih =>
    obtain ⟨j, event⟩ := e
    rw [run_concat] at visits ⊢
    have before := ih (visits.of_prefix (places_grow w _ j i event))
    rw [own_concat]
    by_cases same : j = i
    · subst same
      have inTurn := (takesInTurn_fresh policy request).run w events
      rw [if_pos rfl, call_step_self, inTurn.moved_eq j event visits, before, Course.run_append]
      rfl
    · rw [if_neg same, List.append_nil, call_step_of_ne w _ same, before]

end Pool

/-! ## What random numbers leave as it is -/

/-- Stages that differ in the length of a rest at most. -/
inductive Stage.Alike : Stage → Stage → Prop
  | ready (retries : UInt32) : Alike (.ready retries) (.ready retries)
  | sending (retries : UInt32) : Alike (.sending retries) (.sending retries)
  | resting (attempts : UInt32) (length length' : Duration) :
      Alike (.resting attempts length) (.resting attempts length')
  | finished (result : Except Error Json) : Alike (.finished result) (.finished result)

/-- What is told differs in the random number at most. -/
inductive Progress.Alike : Progress → Progress → Prop
  | pending : Alike .pending .pending
  | ended (outcome : Outcome) (draw draw' : UInt64) :
      Alike (.ended outcome draw) (.ended outcome draw')
  | rested : Alike .rested .rested

/-- Calls that differ in the lengths of their rests at most. -/
structure Call.Alike (c d : Call) : Prop where
  policy : c.policy = d.policy
  request : c.request = d.request
  isFired : c.isFired = d.isFired
  stage : c.stage.Alike d.stage
  sends : c.sends = d.sends
  retries : c.rests.map Prod.fst = d.rests.map Prod.fst

namespace Call.Alike

variable {c d : Call}

theorem refl (c : Call) : c.Alike c := by
  refine ⟨rfl, rfl, rfl, ?_, rfl, rfl⟩
  cases c.stage <;> constructor

theorem result (h : c.Alike d) : c.result? = d.result? := by
  have stage := h.stage
  rw [result?, result?]
  generalize c.stage = s, d.stage = t at stage
  cases stage <;> rfl

theorem fire (h : c.Alike d) : (c.step .fire).Alike (d.step .fire) :=
  ⟨h.policy, h.request, rfl, h.stage, h.sends, h.retries⟩

theorem finish (h : c.Alike d) (result : Except Error Json) :
    (c.finish result).Alike (d.finish result) :=
  ⟨h.policy, h.request, h.isFired, .finished result, h.sends, h.retries⟩

theorem record_send (h : c.Alike d) :
    (c.record (.send c.request)).Alike (d.record (.send d.request)) := by
  refine ⟨h.policy, h.request, h.isFired, h.stage, ?_, ?_⟩
  · rw [sends_record_send, sends_record_send, h.sends, h.request]
  · simpa [rests, record] using h.retries

/-- The random number goes into the length of a rest, and nowhere else. -/
theorem settle (h : c.Alike d) (retries : UInt32) (draw draw' : UInt64) (outcome : Outcome) :
    (c.settle retries draw outcome).Alike (d.settle retries draw' outcome) := by
  cases outcome with
  | response response => exact h.finish _
  | failure failure =>
    simp only [Call.settle, h.policy]
    split
    · refine ⟨h.policy, h.request, h.isFired, .resting _ _ _, ?_, ?_⟩
      · simpa [Call.sends, record] using h.sends
      · simpa [rests, record] using h.retries
    · rw [h.request]
      exact h.finish _

theorem goOnSending (h : c.Alike d) (retries : UInt32) {progress progress' : Progress}
    (told : progress.Alike progress') :
    (c.goOnSending retries progress).Alike (d.goOnSending retries progress') := by
  cases told with
  | ended outcome draw draw' => exact h.settle retries draw draw' outcome
  | pending => exact ⟨h.policy, h.request, h.isFired, .sending retries, h.sends, h.retries⟩
  | rested => exact ⟨h.policy, h.request, h.isFired, .sending retries, h.sends, h.retries⟩

theorem look (h : c.Alike d) {progress progress' : Progress} (told : progress.Alike progress') :
    (c.look progress).Alike (d.look progress') := by
  have stage := h.stage
  have fired := h.isFired
  rw [Call.look, Call.look]
  generalize stage_c : c.stage = s, stage_d : d.stage = t at stage
  cases stage with
  | finished result => exact h
  | ready retries =>
    simp only [← fired]
    split
    · exact h.finish _
    · exact h.record_send.goOnSending retries told
  | sending retries =>
    simp only [← fired]
    split
    · exact h.finish _
    · exact h.goOnSending retries told
  | resting attempts length length' =>
    simp only [← fired]
    split
    · exact h.finish _
    · cases told with
      | rested => exact ⟨h.policy, h.request, rfl, .ready attempts, h.sends, h.retries⟩
      | _ => exact h

end Call.Alike

namespace Course

variable {v v' : Course}

/-- Courses with the same outcomes tell alike calls alike things. -/
theorem progress_alike (same : v.outcome = v'.outcome) {c d : Call} (h : c.Alike d) :
    (v.progress c).Alike (v'.progress d) := by
  have stage := h.stage
  rw [progress, progress, same, h.sends]
  generalize c.stage = s, d.stage = t at stage
  cases stage <;> constructor

theorem run_alike (same : v.outcome = v'.outcome) {c d : Call} (h : c.Alike d)
    (events : List Event) : (v.run c events).Alike (v'.run d events) := by
  induction events generalizing c d with
  | nil => exact h
  | cons event events ih =>
    refine ih ?_
    cases event with
    | fire => exact h.fire
    | look isOver fires =>
      have looked : (c.step (.look (if isOver then v.progress c else .pending))).Alike
          (d.step (.look (if isOver then v'.progress d else .pending))) := by
        cases isOver with
        | true => exact h.look (progress_alike same h)
        | false => exact h.look .pending
      cases fires with
      | true => exact looked.fire
      | false => exact looked

end Course

namespace Pool

variable {ι : Type} [DecidableEq ι]

/-- The course of the attempts that took these places. -/
def along (w : Course) (places : List Nat) : Course where
  outcome n := w.outcome (places[n]?.getD 0)
  draw n := w.draw (places[n]?.getD 0)

theorem visits_along (w : Course) (places : List Nat) : (along w places).Visits w places := by
  intro n place found
  simp [along, found]

/-- A call to which the same happens, and whose attempts end in the same way, does the same and
comes to the same, whatever becomes of the calls around it, and on whatever course. -/
theorem alike_of_same_outcomes (w w' : Course) (policy : RetryPolicy) (request : ι → Request)
    (events events' : List (ι × Event)) (i : ι) (happened : own i events' = own i events)
    (ended : (((fresh policy request).run w' events').places i).map w'.outcome =
      (((fresh policy request).run w events).places i).map w.outcome) :
    (((fresh policy request).run w' events').call i).Alike
      (((fresh policy request).run w events).call i) := by
  generalize places_eq : ((fresh policy request).run w events).places i = places at ended
  generalize places_eq' : ((fresh policy request).run w' events').places i = places' at ended
  -- the outcomes of the one run, with the random numbers of the other
  let v' : Course := { along w' places' with outcome := (along w places).outcome }
  have visits' : v'.Visits w' places' := by
    intro n place found
    refine ⟨?_, (visits_along w' places' n place found).2⟩
    have other := congrArg (·[n]?) ended
    simp only [List.getElem?_map, found, Option.map_some] at other
    obtain ⟨place', found', same⟩ := Option.map_eq_some_iff.mp other.symm
    rw [← same]
    exact (visits_along w places n place' found').1
  have alone := call_run w policy request events i (along w places)
    (places_eq ▸ visits_along w places)
  have alone' := call_run w' policy request events' i v' (places_eq' ▸ visits')
  rw [alone, alone', happened]
  have same : v'.outcome = (along w places).outcome := rfl
  exact Course.run_alike same (.refl _) _

/-- Calls of one client over one course, in any number, with or without tokens, whatever the order
of their events. Every place of the course that was taken was taken by one attempt, and the attempts
of a call took theirs in order. A call does what it would do alone after its own events, on any
course that visits the places it took; without a token it is executed on that course. Another run,
on another course and with other events of the other calls, is no different for a call to which the
same happens and whose attempts end in the same way: it sends the same, rests before the same
retries and has the same result. So it is, in particular, if the token of another call had not been
fired, unless that left other outcomes for it to take. -/
theorem calls_run_as_alone (w : Course) (policy : RetryPolicy) (request : ι → Request)
    (events : List (ι × Event)) :
    let pool := (fresh policy request).run w events
    pool.TakesInTurn ∧
    (∀ place < pool.next,
      ∃! attempt : ι × Nat, (pool.places attempt.1)[attempt.2]? = some place) ∧
    (∀ (i : ι) (v : Course), v.Visits w (pool.places i) →
      pool.call i = v.run (.fresh policy (request i)) (own i events) ∧
      ((∀ event ∈ own i events, event.fires = false) →
        ∃ looks, pool.call i = v.execute policy (request i) looks)) ∧
    (∀ (w' : Course) (events' : List (ι × Event)) (i : ι),
      let pool' := (fresh policy request).run w' events'
      own i events' = own i events →
      (pool'.places i).map w'.outcome = (pool.places i).map w.outcome →
        (pool'.call i).sends = (pool.call i).sends ∧
        (pool'.call i).rests.map Prod.fst = (pool.call i).rests.map Prod.fst ∧
        (pool'.call i).result? = (pool.call i).result?) ∧
    (∀ i j before after, i ≠ j → events = before ++ (i, .fire) :: after →
      let pool' := (fresh policy request).run w (before ++ after)
      (pool'.places j).map w.outcome = (pool.places j).map w.outcome →
        (pool'.call j).sends = (pool.call j).sends ∧
        (pool'.call j).result? = (pool.call j).result?) := by
  intro pool
  have inTurn : pool.TakesInTurn := (takesInTurn_fresh policy request).run w events
  refine ⟨inTurn, inTurn.existsUnique, fun i v visits => ?_, fun w' events' i => ?_,
    fun i j before after other fired => ?_⟩
  · have alone := call_run w policy request events i v visits
    refine ⟨alone, fun quiet => ?_⟩
    obtain ⟨looks, -, executed⟩ := v.exists_execute policy (request i) (own i events) quiet
    exact ⟨looks, alone.trans executed⟩
  · intro pool' happened ended
    have alike := alike_of_same_outcomes w w' policy request events events' i happened ended
    exact ⟨alike.sends, alike.retries, alike.result⟩
  · intro pool' ended
    have happened : own j (before ++ after) = own j events := by
      rw [fired, own_of_ne other]
    have alike := alike_of_same_outcomes w w policy request events _ j happened ended
    exact ⟨alike.sends, alike.result⟩

/-- Two calls, the second of which has an attempt under way when its token is fired. -/
def crossing : List (Bool × Event) :=
  [(true, .look false false), (false, .look false false), (true, .look true false), (false, .fire),
    (false, .look true false), (true, .look true false), (true, .look true false)]

/-- The response that the second call took is lost with it, and the first call takes the next. -/
theorem crossing_undisturbed :
    let w := Course.answeredSecond
    let pool := (fresh {} fun _ => Course.startPage).run w crossing
    pool.places true = [0, 2] ∧ pool.places false = [1] ∧
    (along w [0, 2]).Visits w (pool.places true) ∧
    pool.call true = (along w [0, 2]).run (.fresh {} Course.startPage)
      [.look false false, .look true false, .look true false, .look true false] ∧
    (pool.call true).result? = some (.ok (.object [])) ∧
    (pool.call false).result? = some (.error (.cancelled 1)) := by
  intro w pool
  have visits : (along w [0, 2]).Visits w (pool.places true) := visits_along w [0, 2]
  obtain ⟨-, -, alone, -⟩ := calls_run_as_alone w {} (fun _ => Course.startPage) crossing
  exact ⟨rfl, rfl, visits, (alone true _ visits).1, by decide +kernel, by decide +kernel⟩

end Pool
end DocSearch.Http
