import DocSearch.Proofs.Http.Course

/-!
# How a call is settled

A call that is not cancelled makes attempts up to the first one whose outcome settles it, or after
which no retry is left, and rests once between two of them. Its result is read off the outcome of
that attempt alone. Where it stands depends only on how many attempts and rests are over, however
often it is looked at meanwhile.
-/
namespace DocSearch.Http

theorem retries_lt_size (w : Course) (policy : RetryPolicy) :
    w.retries policy < UInt32.size :=
  Nat.lt_of_le_of_lt (w.retries_le policy) policy.maxRetries.toNat_lt_size

theorem ofNat_retry_succ (n : Nat) : UInt32.ofNat n + 1 = UInt32.ofNat (n + 1) := by
  simp [UInt32.ofNat_add]

namespace Call

theorem settle_early (w : Course) (c : Call) (n : Nat) (early : n < w.retries c.policy) :
    c.settle (.ofNat n) (w.draw n) (w.outcome n) =
      { c.record (.rest (.ofNat (n + 1)) (c.policy.delay (.ofNat (n + 1)) (w.draw n))) with
        stage := .resting (.ofNat (n + 1)) (c.policy.delay (.ofNat (n + 1)) (w.draw n)) } := by
  obtain ⟨unsettled, left⟩ := w.not_settles_of_lt c.policy n early
  have small : n < UInt32.size := Nat.lt_trans early (retries_lt_size w c.policy)
  have retriable : UInt32.ofNat n < c.policy.maxRetries := by
    rw [UInt32.lt_iff_toNat_lt, UInt32.toNat_ofNat_of_lt' small]
    exact left
  cases ended : w.outcome n with
  | response response => simp [ended, Outcome.settles] at unsettled
  | failure failure =>
    have transient : failure.isTransient = true := by
      simpa [ended, Outcome.settles] using unsettled
    simp only [settle, transient, retriable, and_self, if_true, ofNat_retry_succ]

theorem settle_last (w : Course) (c : Call) :
    c.settle (.ofNat (w.retries c.policy)) (w.draw (w.retries c.policy))
        (w.outcome (w.retries c.policy)) =
      c.finish (conclusion c.request (.ofNat (w.retries c.policy + 1))
        (w.outcome (w.retries c.policy))) := by
  have last := w.settles_or_exhausted c.policy
  cases ended : w.outcome (w.retries c.policy) with
  | response response => rfl
  | failure failure =>
    have given_up : ¬(failure.isTransient = true ∧
        UInt32.ofNat (w.retries c.policy) < c.policy.maxRetries) := by
      rintro ⟨transient, retriable⟩
      rw [UInt32.lt_iff_toNat_lt, UInt32.toNat_ofNat_of_lt' (retries_lt_size w c.policy)]
        at retriable
      rcases last with settled | exhausted
      · simp [ended, Outcome.settles, transient] at settled
      · omega
    simp only [settle, if_neg given_up, conclusion, ofNat_retry_succ]

end Call

namespace Course

/-- Where a call stands, and what it has done, once so many looks have found an attempt or a rest
over. -/
inductive Standing (w : Course) (policy : RetryPolicy) (request : Request) :
    Nat → Stage → List Action → Prop
  | ready (n : Nat) (reached : n ≤ w.retries policy) :
    Standing w policy request (2 * n) (.ready (.ofNat n)) (w.rounds policy request n)
  | sending (n : Nat) (reached : n ≤ w.retries policy) :
    Standing w policy request (2 * n) (.sending (.ofNat n))
      (w.rounds policy request n ++ [.send request])
  | resting (n : Nat) (reached : n < w.retries policy) :
    Standing w policy request (2 * n + 1)
      (.resting (.ofNat (n + 1)) (policy.delay (.ofNat (n + 1)) (w.draw n)))
      (w.rounds policy request (n + 1))
  | finished (ended : Nat) (reached : 2 * w.retries policy + 1 ≤ ended) :
    Standing w policy request ended
      (.finished (conclusion request (.ofNat (w.retries policy + 1))
        (w.outcome (w.retries policy))))
      (w.rounds policy request (w.retries policy) ++ [.send request])

/-- A call of this policy and request that stands on the course. -/
structure Carries (w : Course) (policy : RetryPolicy) (request : Request) (ended : Nat)
    (c : Call) : Prop where
  policy_eq : c.policy = policy
  request_eq : c.request = request
  standing : w.Standing policy request ended c.stage c.actions

theorem carries_fresh (w : Course) (policy : RetryPolicy) (request : Request) :
    w.Carries policy request 0 (.fresh policy request) :=
  ⟨rfl, rfl, .ready 0 (Nat.zero_le _)⟩

theorem sends_rounds (w : Course) (policy : RetryPolicy) (request : Request) (n : Nat) (c : Call)
    (actions : c.actions = w.rounds policy request n) : c.sends = List.replicate n request := by
  rw [Call.sends, actions]
  clear actions
  induction n with
  | zero => rfl
  | succ n ih => rw [rounds_succ, List.filterMap_append, ih]; simp [List.replicate_succ']

theorem sends_rounds_send (w : Course) (policy : RetryPolicy) (request : Request) (n : Nat)
    (c : Call) (actions : c.actions = w.rounds policy request n ++ [.send request]) :
    c.sends = List.replicate (n + 1) request := by
  have before := w.sends_rounds policy request n
    { c with actions := w.rounds policy request n } rfl
  rw [Call.sends] at before ⊢
  rw [actions, List.filterMap_append, before]
  simp [List.replicate_succ']

/-- The outcome of the attempt at hand leads on to the rest after it, or to the end. -/
theorem carries_settled (w : Course) (policy : RetryPolicy) (request : Request) (n : Nat)
    (c : Call) (reached : n ≤ w.retries policy) (policy_eq : c.policy = policy)
    (request_eq : c.request = request)
    (actions : c.actions = w.rounds policy request n ++ [.send request]) :
    w.Carries policy request (2 * n + 1) (c.settle (.ofNat n) (w.draw n) (w.outcome n)) := by
  subst policy_eq request_eq
  rcases Nat.lt_or_eq_of_le reached with early | last
  · rw [c.settle_early w n early]
    refine ⟨rfl, rfl, ?_⟩
    have done : c.actions ++ [.rest (.ofNat (n + 1)) (c.policy.delay (.ofNat (n + 1)) (w.draw n))] =
        w.rounds c.policy c.request (n + 1) := by
      rw [actions, rounds_succ, List.append_assoc]
      rfl
    simpa only [Call.record, done] using Standing.resting n early
  · subst last
    rw [c.settle_last w]
    refine ⟨rfl, rfl, ?_⟩
    simpa only [Call.finish, actions] using Standing.finished _ (Nat.le_refl _)

theorem Carries.goOn {w : Course} {policy : RetryPolicy} {request : Request} {n : Nat} {c : Call}
    (reached : n ≤ w.retries policy) (policy_eq : c.policy = policy)
    (request_eq : c.request = request)
    (actions : c.actions = w.rounds policy request n ++ [.send request]) (isOver : Bool) :
    w.Carries policy request (2 * n + isOver.toNat)
      (c.goOnSending (.ofNat n)
        (if isOver then .ended (w.outcome n) (w.draw n) else .pending)) := by
  cases isOver with
  | true => exact w.carries_settled policy request n c reached policy_eq request_eq actions
  | false =>
    refine ⟨policy_eq, request_eq, ?_⟩
    show w.Standing policy request (2 * n) (.sending (.ofNat n)) c.actions
    rw [actions]
    exact .sending n reached

/-- A look moves a call on exactly if it finds the attempt or the rest at hand over. -/
theorem Carries.look {w : Course} {policy : RetryPolicy} {request : Request} {ended : Nat}
    {c : Call} (h : w.Carries policy request ended c) (quiet : c.isFired = false) (isOver : Bool) :
    w.Carries policy request (ended + isOver.toNat)
      (c.look (if isOver then w.progress c else .pending)) := by
  obtain ⟨policy_eq, request_eq, standing⟩ := h
  generalize stage_eq : c.stage = stage, actions_eq : c.actions = actions at standing
  cases standing with
  | ready n reached =>
    have sent := w.sends_rounds policy request n c actions_eq
    have started : (c.record (.send c.request)).actions =
        w.rounds policy request n ++ [.send request] := by
      rw [Call.record, actions_eq, request_eq]
    have moved := Carries.goOn (c := c.record (.send c.request)) reached policy_eq request_eq
      started isOver
    rw [c.look_ready stage_eq quiet]
    simpa only [progress, stage_eq, sent, List.length_replicate] using moved
  | sending n reached =>
    have sent := w.sends_rounds_send policy request n c actions_eq
    have moved := Carries.goOn reached policy_eq request_eq actions_eq isOver
    rw [c.look_sending stage_eq quiet]
    simpa only [progress, stage_eq, sent, List.length_replicate, Nat.add_sub_cancel] using moved
  | resting n reached =>
    rw [c.look_resting stage_eq quiet]
    cases isOver with
    | true =>
      simp only [if_true, progress, stage_eq]
      refine ⟨policy_eq, request_eq, ?_⟩
      show w.Standing policy request (2 * (n + 1)) (.ready (.ofNat (n + 1))) c.actions
      rw [actions_eq]
      exact .ready (n + 1) reached
    | false =>
      refine ⟨policy_eq, request_eq, ?_⟩
      show w.Standing policy request (2 * n + 1) c.stage c.actions
      rw [stage_eq, actions_eq]
      exact .resting n reached
  | finished ended reached =>
    rw [c.look_finished stage_eq]
    refine ⟨policy_eq, request_eq, ?_⟩
    rw [stage_eq, actions_eq]
    exact .finished _ (Nat.le_add_right_of_le reached)

/-- A run of looks at a quiet call follows the course. -/
theorem Carries.run {w : Course} {policy : RetryPolicy} {request : Request} {ended : Nat}
    {c : Call} (h : w.Carries policy request ended c) (quiet : c.isFired = false)
    (looks : List Bool) :
    w.Carries policy request (ended + looks.count true)
        (w.run c (looks.map fun isOver => .look isOver false)) ∧
      (w.run c (looks.map fun isOver => .look isOver false)).isFired = false := by
  induction looks generalizing c ended with
  | nil => exact ⟨h, quiet⟩
  | cons isOver looks ih =>
    have moved := h.look quiet isOver
    have still : (c.look (if isOver then w.progress c else .pending)).isFired = false := by
      rw [c.isFired_look, quiet]
    obtain ⟨carried, fired⟩ := ih moved still
    refine ⟨?_, fired⟩
    have counted : ended + (isOver :: looks).count true =
        ended + isOver.toNat + looks.count true := by
      cases isOver <;> simp [Nat.add_comm, Nat.add_left_comm]
    rw [counted]
    exact carried

theorem carries_execute (w : Course) (policy : RetryPolicy) (request : Request)
    (looks : List Bool) :
    w.Carries policy request (looks.count true) (w.execute policy request looks) := by
  have carried := ((w.carries_fresh policy request).run rfl looks).1
  rwa [Nat.zero_add] at carried

theorem isFired_execute (w : Course) (policy : RetryPolicy) (request : Request)
    (looks : List Bool) : (w.execute policy request looks).isFired = false :=
  ((w.carries_fresh policy request).run rfl looks).2

theorem rounds_prefix (w : Course) (policy : RetryPolicy) (request : Request) {m n : Nat}
    (le : m ≤ n) : w.rounds policy request m <+: w.rounds policy request n := by
  induction n with
  | zero =>
    obtain rfl := Nat.le_zero.mp le
    exact List.prefix_rfl
  | succ n ih =>
    rcases Nat.lt_or_eq_of_le le with lt | rfl
    · rw [rounds_succ]
      exact (ih (Nat.le_of_lt_succ lt)).trans (List.prefix_append _ _)
    · exact List.prefix_rfl

theorem rounds_send_prefix (w : Course) (policy : RetryPolicy) (request : Request) {m n : Nat}
    (lt : m < n) :
    w.rounds policy request m ++ [.send request] <+: w.rounds policy request n := by
  refine List.IsPrefix.trans ?_ (w.rounds_prefix policy request lt)
  rw [rounds_succ]
  exact ⟨[.rest (.ofNat (m + 1)) (policy.delay (.ofNat (m + 1)) (w.draw m))], by simp⟩

/-- What a call has done so far is the beginning of what it does in all. -/
theorem Carries.actions_prefix {w : Course} {policy : RetryPolicy} {request : Request}
    {ended : Nat} {c : Call} (h : w.Carries policy request ended c) :
    c.actions <+: w.rounds policy request (w.retries policy) ++ [.send request] := by
  obtain ⟨-, -, standing⟩ := h
  generalize c.stage = stage, c.actions = actions at standing
  cases standing with
  | ready n reached => exact (w.rounds_prefix policy request reached).trans (List.prefix_append _ _)
  | sending n reached =>
    rcases Nat.lt_or_eq_of_le reached with lt | rfl
    · exact (w.rounds_send_prefix policy request lt).trans (List.prefix_append _ _)
    · exact List.prefix_rfl
  | resting n reached =>
    exact (w.rounds_prefix policy request reached).trans (List.prefix_append _ _)
  | finished ended reached => exact List.prefix_rfl

/-- What a call has sent so far is its request, at most once and once for every retry. -/
theorem Carries.sends_prefix {w : Course} {policy : RetryPolicy} {request : Request} {ended : Nat}
    {c : Call} (h : w.Carries policy request ended c) :
    c.sends <+: List.replicate (w.retries policy + 1) request := by
  have whole := w.sends_rounds_send policy request (w.retries policy)
    { c with actions := w.rounds policy request (w.retries policy) ++ [.send request] } rfl
  rw [← whole]
  exact h.actions_prefix.filterMap _

/-- A call is finished once all its attempts and the rests between them are over. -/
theorem Carries.result {w : Course} {policy : RetryPolicy} {request : Request} {ended : Nat}
    {c : Call} (h : w.Carries policy request ended c) :
    c.result? = (if 2 * w.retries policy + 1 ≤ ended then
        some (conclusion request (.ofNat (w.retries policy + 1))
          (w.outcome (w.retries policy)))
      else none) ∧
    (2 * w.retries policy + 1 ≤ ended →
      c.actions = w.rounds policy request (w.retries policy) ++ [.send request]) := by
  obtain ⟨-, -, standing⟩ := h
  rw [Call.result?]
  generalize c.stage = stage, c.actions = actions at standing
  cases standing with
  | ready n reached => rw [if_neg (by omega)]; exact ⟨rfl, fun _ => by omega⟩
  | sending n reached => rw [if_neg (by omega)]; exact ⟨rfl, fun _ => by omega⟩
  | resting n reached => rw [if_neg (by omega)]; exact ⟨rfl, fun _ => by omega⟩
  | finished ended reached => rw [if_pos reached]; exact ⟨rfl, fun _ => rfl⟩

/-- A call has a result exactly when all its attempts and rests are over. -/
theorem execute_finished_iff (w : Course) (policy : RetryPolicy) (request : Request)
    (looks : List Bool) :
    (w.execute policy request looks).result?.isSome = true ↔
      2 * w.retries policy + 1 ≤ looks.count true := by
  rw [(w.carries_execute policy request looks).result.1]
  split <;> simp_all

theorem sends_of_finished (w : Course) (policy : RetryPolicy) (request : Request)
    (looks : List Bool)
    (finished : (w.execute policy request looks).result?.isSome = true) :
    (w.execute policy request looks).sends = List.replicate (w.retries policy + 1) request :=
  w.sends_rounds_send policy request _ _
    ((w.carries_execute policy request looks).result.2
      ((w.execute_finished_iff policy request looks).mp finished))

/-- The result is read off the outcome of the last attempt. -/
theorem execute_eq_conclusion (w : Course) (policy : RetryPolicy) (request : Request)
    (looks : List Bool) (result : Except Error Json)
    (ended : (w.execute policy request looks).result? = some result) :
    result = conclusion request (.ofNat (w.retries policy + 1))
      (w.outcome (w.retries policy)) := by
  rw [(w.carries_execute policy request looks).result.1] at ended
  split at ended
  · exact (Option.some.inj ended).symm
  · cases ended

/-- An attempt is not started before every earlier one, and the rest after it, is over. -/
theorem Carries.ended_of_send {w : Course} {policy : RetryPolicy} {request : Request}
    {ended : Nat} {c : Call} (h : w.Carries policy request ended c) (quiet : c.isFired = false)
    (progress : Progress) (sent : (c.look progress).sends ≠ c.sends) :
    ended = 2 * c.sends.length := by
  obtain ⟨-, -, standing⟩ := h
  generalize stage_eq : c.stage = stage, actions_eq : c.actions = actions at standing
  cases standing with
  | ready n reached => rw [w.sends_rounds policy request n c actions_eq, List.length_replicate]
  | sending n reached =>
    rw [c.look_sending stage_eq quiet, c.sends_goOnSending] at sent
    exact absurd rfl sent
  | resting n reached =>
    rw [c.look_resting stage_eq quiet] at sent
    cases progress <;> exact absurd rfl sent
  | finished ended reached =>
    rw [c.look_finished stage_eq] at sent
    exact absurd rfl sent

theorem rests_rounds_send (w : Course) (policy : RetryPolicy) (request : Request) (n : Nat)
    (c : Call) (actions : c.actions = w.rounds policy request n ++ [.send request]) :
    c.rests = (List.range n).map fun i =>
      (.ofNat (i + 1), policy.delay (.ofNat (i + 1)) (w.draw i)) := by
  rw [Call.rests, actions, List.filterMap_append]
  clear actions
  induction n with
  | zero => rfl
  | succ n ih =>
    rw [rounds_succ, List.filterMap_append, List.append_assoc, List.range_succ, List.map_append,
      ← ih]
    simp

/-- Rests bear the numbers of their retries, as far as these can be counted. -/
theorem rests_numbered (w : Course) (policy : RetryPolicy) (request : Request) (n : Nat)
    (c : Call) (actions : c.actions = w.rounds policy request n ++ [.send request])
    (small : n < UInt32.size) :
    c.rests.map (fun rest => (rest.1.toNat, rest.2)) =
      (List.range n).map (fun i => (i + 1, policy.delay (.ofNat (i + 1)) (w.draw i))) := by
  rw [w.rests_rounds_send policy request n c actions, List.map_map]
  apply List.map_congr_left
  intro i member
  have below := List.mem_range.mp member
  have counted : i + 1 < UInt32.size := by omega
  simp only [Function.comp_apply, UInt32.toNat_ofNat_of_lt' counted]

/-- A call that ends with a failure that may go by has used up its attempts. -/
theorem attempts_of_transient (w : Course) (policy : RetryPolicy) (request : Request)
    (room : policy.maxRetries.toNat < UInt32.size - 1) (error : Error)
    (ended : conclusion request (.ofNat (w.retries policy + 1)) (w.outcome (w.retries policy)) =
      .error error)
    (transient : error.isTransient = true) :
    error.attempts? = some policy.maxAttempts := by
  cases outcome : w.outcome (w.retries policy) with
  | response response =>
    rw [outcome, conclusion, readReply] at ended
    split at ended <;> cases ended <;> cases transient
  | failure failure =>
    rw [outcome, conclusion] at ended
    cases ended
    have exhausted : w.retries policy = policy.maxRetries.toNat := by
      rcases w.settles_or_exhausted policy with settled | exhausted
      · rw [outcome, Outcome.settles, Bool.not_eq_true'] at settled
        rw [Error.isTransient, settled] at transient
        cases transient
      · exact exhausted
    have below : policy.maxRetries ≠ UInt32.ofNat (UInt32.size - 1) := by
      intro greatest
      rw [greatest] at room
      exact absurd room (by decide)
    rw [Error.attempts?, RetryPolicy.maxAttempts, if_neg below, exhausted, ← ofNat_retry_succ,
      UInt32.ofNat_toNat]

/-- A call without a token, looked at any number of times, makes `k` attempts and no more, where
the `k`-th outcome is the first to settle it or no retry is left after it. It sends the same
request each time, one attempt after the other, and rests once between two of them, for the time
drawn for that retry. It is finished once these attempts and rests are over, with a result that is
read off the `k`-th outcome. -/
theorem execute_settled_by_last_outcome (w : Course) (policy : RetryPolicy) (request : Request)
    (room : policy.maxRetries.toNat < UInt32.size - 1) (looks : List Bool) :
    let k := w.retries policy + 1
    let call := w.execute policy request looks
    let whole := w.rounds policy request (k - 1) ++ [.send request]
    ((w.outcome (k - 1)).settles = true ∨ k = policy.maxRetries.toNat + 1) ∧
    (∀ i, i < k - 1 → (w.outcome i).settles = false ∧ i < policy.maxRetries.toNat) ∧
    call.actions <+: whole ∧
    (∀ isOver, (w.execute policy request (looks ++ [isOver])).sends ≠ call.sends →
      looks.count true = 2 * call.sends.length) ∧
    (call.result?.isSome = true ↔ 2 * k - 1 ≤ looks.count true) ∧
    (2 * k - 1 ≤ looks.count true →
      call.actions = whole ∧
      call.sends = List.replicate k request ∧
      call.rests.map (fun rest => (rest.1.toNat, rest.2)) =
        (List.range (k - 1)).map
          (fun i => (i + 1, policy.delay (.ofNat (i + 1)) (w.draw i))) ∧
      ∃ attempts : UInt32, attempts.toNat = k ∧
        call.result? = some (conclusion request attempts (w.outcome (k - 1))) ∧
        ∀ error, conclusion request attempts (w.outcome (k - 1)) = .error error →
          error.isTransient = true → error.attempts? = some policy.maxAttempts) := by
  intro k call whole
  have carried : w.Carries policy request (looks.count true) call :=
    w.carries_execute policy request looks
  have quiet : call.isFired = false := w.isFired_execute policy request looks
  obtain ⟨result, actions⟩ := carried.result
  have bound := w.retries_le policy
  refine ⟨?_, w.not_settles_of_lt policy, carried.actions_prefix, ?_, ?_, ?_⟩
  · rcases w.settles_or_exhausted policy with settled | exhausted
    · exact Or.inl settled
    · exact Or.inr (congrArg (· + 1) exhausted)
  · intro isOver sent
    have next : w.execute policy request (looks ++ [isOver]) =
        call.look (if isOver then w.progress call else .pending) := by
      rw [execute, List.map_append, run_append]
      rfl
    rw [next] at sent
    exact carried.ended_of_send quiet _ sent
  · rw [result]
    split <;> simp <;> omega
  · intro enough
    have complete : 2 * w.retries policy + 1 ≤ looks.count true := by omega
    have whole_done := actions complete
    have rests := w.rests_numbered policy request (k - 1) call whole_done (by omega)
    refine ⟨whole_done, w.sends_rounds_send policy request _ call whole_done, rests, .ofNat k,
      UInt32.toNat_ofNat_of_lt' (by omega), ?_, ?_⟩
    · rw [result, if_pos complete]
      rfl
    · exact w.attempts_of_transient policy request room

/-- Asks a host for its start page. -/
def startPage : Request where
  method := "GET"
  url :=
    { scheme := ['h', 't', 't', 'p'], authority := some { host := .domain ['d', 'b'] }
      path := .segments [[]] }

/-- A first attempt that times out, and a second one that is answered. -/
def answeredSecond : Course where
  outcome n := if n = 0 then .failure ⟨.timeout, "no answer"⟩ else .response ⟨503, [0x7B, 0x7D]⟩
  draw _ := 70

theorem retries_answeredSecond : answeredSecond.retries {} = 1 :=
  (Nat.find_eq_iff _).mpr ⟨by decide, by decide⟩

/-- The attempts and the rest of a call that is answered at the second attempt, one look after the
other, the first of them too early. -/
theorem execute_answered_second :
    ({} : RetryPolicy).maxRetries.toNat < UInt32.size - 1 ∧
    2 * 2 - 1 ≤ [false, true, true, true].count true ∧
    (answeredSecond.execute {} startPage [false, true, true, true]).sends = [startPage, startPage] ∧
    (answeredSecond.execute {} startPage [false, true, true, true]).result? =
      some (readReply ⟨503, [0x7B, 0x7D]⟩) := by
  have room : ({} : RetryPolicy).maxRetries.toNat < UInt32.size - 1 := by decide
  have settled := answeredSecond.execute_settled_by_last_outcome {} startPage room
    [false, true, true, true]
  rw [retries_answeredSecond] at settled
  obtain ⟨-, -, -, -, -, whole⟩ := settled
  obtain ⟨-, sends, -, attempts, -, result, -⟩ := whole (by decide)
  exact ⟨room, by decide, sends, result⟩

end Course
end DocSearch.Http
