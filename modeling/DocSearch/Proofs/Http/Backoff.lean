import DocSearch.Proofs.Http.AttemptCount

/-!
# How rests grow

A rest is as many steps as its retry has in number, and a random part of one more, cut off at the
greatest delay. The random part is less than a step, so it never makes up for the step by which the
next rest is longer: rests grow strictly until they are cut off, whatever is drawn. A call takes
its rests in the order of their numbers, from one on, so the rests of any run grow like this.
-/
namespace DocSearch.Http

namespace RetryPolicy

theorem nanos_delay (p : RetryPolicy) (retry : UInt32) (draw : UInt64) :
    (p.delay retry draw).nanos =
      min greatestDelay (min greatestDelay (p.step * retry.toNat) + p.jitter draw) := by
  show min (min (p.step * retry.toNat) greatestDelay + p.jitter draw) greatestDelay = _
  rw [Nat.min_comm (p.step * retry.toNat), Nat.min_comm _ greatestDelay]

/-- The random part is less than a step, and nothing when there is no step. -/
theorem jitter_lt (p : RetryPolicy) (draw : UInt64) :
    p.jitter draw < p.step ∨ p.step = 0 ∧ p.jitter draw = 0 := by
  rw [jitter]
  split
  next stepless => exact Or.inr ⟨stepless, rfl⟩
  next stepped => exact Or.inl (Nat.mod_lt _ (Nat.pos_of_ne_zero stepped))

/-- Every part of a step can be drawn. -/
theorem exists_jitter (p : RetryPolicy) (part : Nat)
    (below : part < p.step ∨ p.step = 0 ∧ part = 0) : ∃ draw, p.jitter draw = part := by
  obtain below | ⟨stepless, rfl⟩ := below
  · have stepped : p.step ≠ 0 := Nat.ne_of_gt (Nat.zero_lt_of_lt below)
    have bound : p.step ≤ greatestDelay := Nat.min_le_right _ _
    have counted : part < UInt64.size := by
      rw [greatestDelay] at bound
      omega
    refine ⟨.ofNat part, ?_⟩
    rw [jitter, if_neg stepped, UInt64.toNat_ofNat_of_lt' counted, Nat.mod_eq_of_lt below]
  · exact ⟨0, by rw [jitter, if_pos stepless]⟩

/-- Whatever is drawn, a later rest is no shorter, and longer while the earlier one is not cut
off. -/
theorem delay_grows (p : RetryPolicy) {early late : UInt32} (order : early < late)
    (draw draw' : UInt64) :
    (p.delay early draw).nanos ≤ (p.delay late draw').nanos ∧
    (0 < p.step → (p.delay early draw).nanos < greatestDelay →
      (p.delay early draw).nanos < (p.delay late draw').nanos) := by
  have steps : p.step * early.toNat + p.step ≤ p.step * late.toNat := by
    rw [← Nat.mul_succ]
    exact Nat.mul_le_mul_left _ (UInt32.lt_iff_toNat_lt.mp order)
  -- the random part of the earlier rest is less than the step that the later one has more
  have part := p.jitter_lt draw
  rw [nanos_delay, nanos_delay]
  omega

end RetryPolicy

/-! ## The rests of a run -/

/-- The number at which a call stands is that of the rests it has begun. -/
def Stage.HasRested (rests : Nat) : Stage → Prop
  | .ready retries | .sending retries => retries.toNat = rests
  | .resting attempts _ => attempts.toNat = rests
  | .finished _ => True

/-- The rests begun so far are numbered from one on, each of a length that may be drawn for its
number. -/
structure Call.RestsInTurn (policy : RetryPolicy) (c : Call) : Prop where
  policy_eq : c.policy = policy
  numbered : c.rests.map (·.1.toNat) = List.range' 1 c.rests.length
  drawn : ∀ rest ∈ c.rests, ∃ draw, rest.2 = policy.delay rest.1 draw
  stage : c.stage.HasRested c.rests.length

namespace Call

variable {policy : RetryPolicy} {c : Call}

theorem rests_record_send (c : Call) (request : Request) :
    (c.record (.send request)).rests = c.rests := by
  simp [rests, record]

theorem rests_record_rest (c : Call) (retry : UInt32) (length : Duration) :
    (c.record (.rest retry length)).rests = c.rests ++ [(retry, length)] := by
  simp [rests, record]

theorem restsInTurn_fresh (policy : RetryPolicy) (request : Request) :
    (fresh policy request).RestsInTurn policy where
  policy_eq := rfl
  numbered := rfl
  drawn _ member := absurd member List.not_mem_nil
  stage := rfl

/-- Rests stay as they are when the stage changes without one. -/
theorem RestsInTurn.at_stage (h : c.RestsInTurn policy) {stage : Stage}
    (rested : stage.HasRested c.rests.length) : { c with stage := stage }.RestsInTurn policy :=
  ⟨h.policy_eq, h.numbered, h.drawn, rested⟩

theorem RestsInTurn.fire (h : c.RestsInTurn policy) : (c.step .fire).RestsInTurn policy :=
  ⟨h.policy_eq, h.numbered, h.drawn, h.stage⟩

theorem RestsInTurn.send (h : c.RestsInTurn policy) (request : Request) :
    (c.record (.send request)).RestsInTurn policy := by
  have same := c.rests_record_send request
  exact ⟨h.policy_eq, by rw [same]; exact h.numbered, by rw [same]; exact h.drawn,
    by rw [same]; exact h.stage⟩

/-- The only way to a further rest is over a failure with retries left, so its number is not yet
at the greatest that can be counted. -/
theorem RestsInTurn.settle (h : c.RestsInTurn policy) {retries : UInt32}
    (counted : retries.toNat = c.rests.length) (draw : UInt64) (outcome : Outcome) :
    (c.settle retries draw outcome).RestsInTurn policy := by
  cases outcome with
  | response response => exact h.at_stage trivial
  | failure failure =>
    simp only [Call.settle]
    split
    next again =>
      have room : retries.toNat + 1 < UInt32.size := by
        have below := UInt32.lt_iff_toNat_lt.mp again.2
        have bound := c.policy.maxRetries.toNat_lt_size
        omega
      have next := RetryPolicy.toNat_succ_of_lt retries room
      have rests := c.rests_record_rest (retries + 1) (c.policy.delay (retries + 1) draw)
      refine ⟨h.policy_eq, ?_, ?_, ?_⟩
      · show (c.record _).rests.map _ = List.range' 1 (c.record _).rests.length
        rw [rests, List.map_append, List.length_append, List.length_singleton, h.numbered,
          List.range'_1_concat, List.map_singleton, next, counted, Nat.add_comm 1]
      · show ∀ rest ∈ (c.record _).rests, _
        rw [rests]
        intro rest member
        obtain before | rfl := List.mem_append.mp member |>.imp_right List.eq_of_mem_singleton
        · exact h.drawn rest before
        · exact ⟨draw, by rw [h.policy_eq]⟩
      · show (retries + 1).toNat = (c.record _).rests.length
        rw [rests, List.length_append, List.length_singleton, next, counted]
    next last => exact h.at_stage trivial

theorem RestsInTurn.goOnSending (h : c.RestsInTurn policy) {retries : UInt32}
    (counted : retries.toNat = c.rests.length) (progress : Progress) :
    (c.goOnSending retries progress).RestsInTurn policy := by
  cases progress with
  | ended outcome draw => exact h.settle counted draw outcome
  | pending => exact h.at_stage counted
  | rested => exact h.at_stage counted

theorem RestsInTurn.look (h : c.RestsInTurn policy) (progress : Progress) :
    (c.look progress).RestsInTurn policy := by
  have standing := h.stage
  unfold Call.look
  split
  next result finished => exact h
  next retries ready =>
    rw [ready] at standing
    split
    · exact h.at_stage trivial
    · have same := c.rests_record_send c.request
      exact (h.send c.request).goOnSending (by rw [same]; exact standing) progress
  next retries sending =>
    rw [sending] at standing
    split
    · exact h.at_stage trivial
    · exact h.goOnSending standing progress
  next attempts length resting =>
    rw [resting] at standing
    split
    · exact h.at_stage trivial
    · split
      · exact h.at_stage standing
      · exact h

/-- Rests that are taken in turn grow: of two of them the later one has the greater number. -/
theorem RestsInTurn.grow (h : c.RestsInTurn policy) :
    c.rests.Pairwise fun early late =>
      early.2.nanos ≤ late.2.nanos ∧
      (0 < policy.step → early.2.nanos < greatestDelay → early.2.nanos < late.2.nanos) := by
  have numbers : (c.rests.map (·.1.toNat)).Pairwise (· < ·) := by
    rw [h.numbered]
    exact List.pairwise_lt_range'
  refine (List.pairwise_map.mp numbers).imp_of_mem ?_
  intro early late early_member late_member order
  obtain ⟨draw, drawn⟩ := h.drawn early early_member
  obtain ⟨draw', drawn'⟩ := h.drawn late late_member
  rw [drawn, drawn']
  exact policy.delay_grows (UInt32.lt_iff_toNat_lt.mpr order) draw draw'

end Call

namespace Course

theorem restsInTurn_step {policy : RetryPolicy} {c : Call} (h : c.RestsInTurn policy) (w : Course)
    (event : Event) : (w.step c event).RestsInTurn policy := by
  cases event with
  | fire => exact h.fire
  | look isOver fires =>
    have looked := h.look (if isOver then w.progress c else .pending)
    cases fires with
    | false => exact looked
    | true => exact looked.fire

theorem restsInTurn_run {policy : RetryPolicy} {c : Call} (h : c.RestsInTurn policy) (w : Course)
    (events : List Event) : (w.run c events).RestsInTurn policy := by
  induction events generalizing c with
  | nil => exact h
  | cons event events ih => exact ih (restsInTurn_step h w event)

end Course

/-- The delays before a retry are exactly the cut-off sums of its steps and a part of one more.
They are bounded on both sides and grow with the number of the retry, and so do the rests of every
run, which bear the numbers from one on. -/
theorem RetryPolicy.rests_grow_until_cut_off (p : RetryPolicy) :
    let most := UInt64.size - 1
    let b := min p.base.nanos most
    (∀ (n : UInt32) (d : Duration), (∃ draw, p.delay n draw = d) ↔
      ∃ j, (j < b ∨ b = 0 ∧ j = 0) ∧ d.nanos = min most (min most (b * n.toNat) + j)) ∧
    (∀ (n : UInt32) (draw : UInt64),
      min most (b * n.toNat) ≤ (p.delay n draw).nanos ∧
      (p.delay n draw).nanos ≤ min most (b * n.toNat + max b 1 - 1)) ∧
    (∀ (n m : UInt32) (draw draw' : UInt64), n < m →
      (p.delay n draw).nanos ≤ (p.delay m draw').nanos ∧
      (0 < b → (p.delay n draw).nanos < most →
        (p.delay n draw).nanos < (p.delay m draw').nanos)) ∧
    ∀ (w : Course) (request : Request) (events : List Event),
      let rests := (w.run (.fresh p request) events).rests
      rests.map (·.1.toNat) = List.range' 1 rests.length ∧
      (∀ rest ∈ rests, ∃ draw, rest.2 = p.delay rest.1 draw) ∧
      rests.Pairwise fun early late =>
        early.2.nanos ≤ late.2.nanos ∧
        (0 < b → early.2.nanos < most → early.2.nanos < late.2.nanos) := by
  intro most b
  refine ⟨?_, ?_, ?_, ?_⟩
  · intro n d
    constructor
    · rintro ⟨draw, rfl⟩
      exact ⟨p.jitter draw, p.jitter_lt draw, p.nanos_delay n draw⟩
    · rintro ⟨j, part, length⟩
      obtain ⟨draw, rfl⟩ := p.exists_jitter j part
      refine ⟨draw, ?_⟩
      exact congrArg Duration.mk ((p.nanos_delay n draw).trans length.symm)
  · intro n draw
    have part : p.jitter draw < b ∨ b = 0 ∧ p.jitter draw = 0 := p.jitter_lt draw
    have length : (p.delay n draw).nanos = min most (min most (b * n.toNat) + p.jitter draw) :=
      p.nanos_delay n draw
    omega
  · intro n m draw draw' order
    exact p.delay_grows order draw draw'
  · intro w request events rests
    have turn := Course.restsInTurn_run (Call.restsInTurn_fresh p request) w events
    exact ⟨turn.numbered, turn.drawn, turn.grow⟩

/-- The rests of a call that is never answered. With the usual policy the longest first rest is a
nanosecond shorter than the shortest second one. -/
theorem RetryPolicy.usual_rests_grow :
    let p : RetryPolicy := {}
    let rests := (Course.timesOut.run (.fresh p Course.startPage)
      (List.replicate 7 (.look true false))).rests
    rests = [(1, ⟨500000000⟩), (2, ⟨1000000000⟩), (3, ⟨1500000000⟩)] ∧
    rests.Pairwise (fun early late => early.2.nanos < late.2.nanos) ∧
    (p.delay 1 499999999).nanos = 999999999 ∧
    (p.delay 1 499999999).nanos < (p.delay 2 0).nanos := by
  intro p rests
  obtain ⟨-, -, order, runs⟩ := p.rests_grow_until_cut_off
  have begun : rests = [(1, ⟨500000000⟩), (2, ⟨1000000000⟩), (3, ⟨1500000000⟩)] := by
    decide +kernel
  have uncut : ∀ rest ∈ rests, rest.2.nanos < UInt64.size - 1 := by
    rw [begun]
    decide
  obtain ⟨-, -, grow⟩ := runs Course.timesOut Course.startPage
    (List.replicate 7 (.look true false))
  have longest : (p.delay 1 499999999).nanos = 999999999 := by decide +kernel
  refine ⟨begun, grow.imp_of_mem ?_, longest, ?_⟩
  · intro early late member _ grown
    exact grown.2 (by decide) (uncut early member)
  · exact (order 1 2 499999999 0 (by decide)).2 (by decide) (by rw [longest]; decide)

end DocSearch.Http
