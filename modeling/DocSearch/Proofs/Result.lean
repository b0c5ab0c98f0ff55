/-!
# Results that may be errors

When a sequence of steps succeeds and when it fails, and what it is to fail at the first item of a
list that is no good.
-/
namespace DocSearch

/-! ## Steps -/

section
variable {ε ε' α β : Type}

theorem bind_eq_ok_iff (first : Except ε α) (next : α → Except ε β) (b : β) :
    (first >>= next) = .ok b ↔ ∃ a, first = .ok a ∧ next a = .ok b := by
  cases first <;> simp [bind, Except.bind]

theorem bind_eq_error_iff (first : Except ε α) (next : α → Except ε β) (e : ε) :
    (first >>= next) = .error e ↔
      first = .error e ∨ ∃ a, first = .ok a ∧ next a = .error e := by
  cases first <;> simp [bind, Except.bind]

/-- After a check that gives nothing back, only the check can fail. -/
theorem check_then_eq_error_iff (check : Except ε Unit) (a : α) (e : ε) :
    (check >>= fun _ => pure a) = .error e ↔ check = .error e := by
  rw [bind_eq_error_iff]
  simp [pure, Except.pure]

theorem mapError_eq_ok_iff (x : Except ε α) (f : ε → ε') (a : α) :
    x.mapError f = .ok a ↔ x = .ok a := by
  cases x with
  | error fault =>
    show Except.error (f fault) = .ok a ↔ Except.error fault = .ok a
    simp
  | ok b =>
    show Except.ok b = .ok a ↔ Except.ok b = .ok a
    simp

theorem mapError_eq_error_iff (x : Except ε α) (f : ε → ε') (e : ε') :
    x.mapError f = .error e ↔ ∃ fault, x = .error fault ∧ e = f fault := by
  cases x with
  | error fault =>
    show Except.error (f fault) = .error e ↔ ∃ g, Except.error fault = .error g ∧ e = f g
    simp [eq_comm]
  | ok b =>
    show Except.ok b = .error e ↔ ∃ g, Except.ok b = .error g ∧ e = f g
    simp

end

/-! ## The first failure in a list -/

/-- An item fails with `e`, and all items before it are good. -/
def FailsFirst {α ε : Type} (good : α → Prop) (bad : α → ε → Prop) (items : List α) (e : ε) :
    Prop :=
  ∃ before item after, items = before ++ item :: after ∧ (∀ x ∈ before, good x) ∧ bad item e

section
variable {α ε : Type} {good : α → Prop} {bad : α → ε → Prop}

theorem not_failsFirst_nil (e : ε) : ¬ FailsFirst good bad [] e := by
  rintro ⟨before, item, after, same, -⟩
  cases before <;> cases same

theorem failsFirst_cons_iff (item : α) (rest : List α) (e : ε) :
    FailsFirst good bad (item :: rest) e ↔
      bad item e ∨ (good item ∧ FailsFirst good bad rest e) := by
  constructor
  · rintro ⟨before, failing, after, same, all, fails⟩
    cases before with
    | nil =>
      cases same
      exact .inl fails
    | cons first before =>
      obtain ⟨rfl, rfl⟩ := List.cons.inj same
      obtain ⟨here, later⟩ := List.forall_mem_cons.mp all
      exact .inr ⟨here, before, failing, after, rfl, later, fails⟩
  · rintro (fails | ⟨here, before, failing, after, rfl, later, fails⟩)
    · exact ⟨[], item, rest, rfl, by simp, fails⟩
    · exact ⟨item :: before, failing, after, rfl, List.forall_mem_cons.mpr ⟨here, later⟩, fails⟩

theorem failsFirst_singleton_iff (item : α) (e : ε) : FailsFirst good bad [item] e ↔ bad item e := by
  simp [failsFirst_cons_iff, not_failsFirst_nil]

theorem failsFirst_append_iff (front back : List α) (e : ε) :
    FailsFirst good bad (front ++ back) e ↔
      FailsFirst good bad front e ∨ ((∀ x ∈ front, good x) ∧ FailsFirst good bad back e) := by
  induction front with
  | nil => simp [not_failsFirst_nil]
  | cons item front ih =>
    rw [List.cons_append, failsFirst_cons_iff, failsFirst_cons_iff, ih, List.forall_mem_cons,
      and_or_left, or_assoc, and_assoc]

/-- A run that goes over items: it succeeds exactly if all of them are good, and otherwise fails
with the first one that is bad. -/
structure GoesOver {β : Type} (good : α → Prop) (bad : α → ε → Prop) (items : List α)
    (run : Except ε β) : Prop where
  ok_iff : (∃ b, run = .ok b) ↔ ∀ x ∈ items, good x
  error_iff : ∀ e, run = .error e ↔ FailsFirst good bad items e

theorem GoesOver.fails_iff {β : Type} {items : List α} {run : Except ε β}
    (h : GoesOver good bad items run) : (∃ e, run = .error e) ↔ ∃ x ∈ items, ¬ good x := by
  have failed : (∃ e, run = .error e) ↔ ¬ ∃ b, run = .ok b := by
    cases run <;> simp
  rw [failed, h.ok_iff]
  simp

theorem goesOver_pure {β : Type} (b : β) :
    GoesOver good bad [] (pure b : Except ε β) where
  ok_iff := ⟨fun _ _ member => absurd member List.not_mem_nil, fun _ => ⟨b, rfl⟩⟩
  error_iff e := ⟨nofun, fun fails => absurd fails (not_failsFirst_nil e)⟩

/-- One run after the other goes over the items of both. -/
theorem GoesOver.bind {β γ : Type} {front back : List α} {first : Except ε β}
    {next : β → Except ε γ} (h : GoesOver good bad front first)
    (h' : ∀ b, GoesOver good bad back (next b)) :
    GoesOver good bad (front ++ back) (first >>= next) where
  ok_iff := by
    rw [List.forall_mem_append, ← h.ok_iff]
    simp only [bind_eq_ok_iff]
    constructor
    · rintro ⟨c, b, here, later⟩
      exact ⟨⟨b, here⟩, (h' b).ok_iff.mp ⟨c, later⟩⟩
    · rintro ⟨⟨b, here⟩, all⟩
      obtain ⟨c, later⟩ := (h' b).ok_iff.mpr all
      exact ⟨c, b, here, later⟩
  error_iff e := by
    rw [bind_eq_error_iff, failsFirst_append_iff, h.error_iff, ← h.ok_iff]
    simp only [(h' _).error_iff, exists_and_right]

theorem GoesOver.bind_pure {β γ : Type} {items : List α} {run : Except ε β}
    (h : GoesOver good bad items run) (f : β → γ) :
    GoesOver good bad items (run >>= fun b => pure (f b)) := by
  simpa using h.bind fun b => goesOver_pure (f b)

end

end DocSearch
