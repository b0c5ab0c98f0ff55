import DocSearch.Proofs.Backend.Replay

/-!
# What a write makes of its reply

The conventions of several backends side by side: flags, shards, words, and a member that says
whether the document was there. They may contradict each other in one reply. An error wins over
all, and for a deletion a denial wins over every acknowledgement; then each reply has one outcome.
Only nine members are looked at, so whatever else a reply holds makes no difference.
-/
namespace DocSearch

namespace Reply

/-! ## What a reply says -/

/-- The reply has an `error` member that is not null. -/
def ReportsError (reply : Json) : Prop := ∃ e, reply.member? "error" = some e ∧ e ≠ .null

/-- The ways in which a reply acknowledges a write. -/
inductive Acknowledges (reply : Json) : Prop
  | ok (given : reply.member? "ok" = some (.bool true))
  | acknowledged (given : reply.member? "acknowledged" = some (.bool true))
  | counts (n : UInt64) (total : reply.member? "total" = some (.ofUInt64 n))
      (successful : reply.member? "successful" = some (.ofUInt64 n))
  | shards (n : UInt64) (total : shards? "total" reply = some (.ofUInt64 n))
      (successful : shards? "successful" reply = some (.ofUInt64 n))
  | result (word : String) (given : reply.member? "result" = some (.string word))
      (done : word ∈ ["created", "updated", "deleted", "noop"])

/-- The ways in which a reply says that the document was not there. -/
inductive DeniesFind (reply : Json) : Prop
  | found (given : reply.member? "found" = some (.bool false))
  | result (given : reply.member? "result" = some (.string "not_found"))

/-- The reply says that the document was there. -/
def ReportsFind (reply : Json) : Prop := reply.member? "found" = some (.bool true)

theorem error?_eq_some_iff (reply e : Json) :
    error? reply = some e ↔ reply.member? "error" = some e ∧ e ≠ .null := by
  have nonnull : e.isNull = false ↔ e ≠ .null := by
    cases e <;> simp [Json.isNull]
  rw [error?, Option.filter_eq_some_iff, Bool.not_eq_true', nonnull]

theorem error?_eq_none_iff_not (reply : Json) : error? reply = none ↔ ¬ ReportsError reply := by
  simp only [Option.eq_none_iff_forall_ne_some, ne_eq, error?_eq_some_iff, ReportsError, not_exists]

theorem toBool?_eq_some_iff (v : Json) (b : Bool) : v.toBool? = some b ↔ v = .bool b := by
  cases v <;> simp [Json.toBool?]

theorem toString?_eq_some_iff (v : Json) (s : String) : v.toString? = some s ↔ v = .string s := by
  cases v <;> simp [Json.toString?]

theorem flag_eq_true_iff (key : String) (reply : Json) :
    flag key reply = true ↔ reply.member? key = some (.bool true) := by
  have read : (reply.member? key).bind Json.toBool? = some true ↔
      reply.member? key = some (.bool true) := by
    simp [Option.bind_eq_some_iff, toBool?_eq_some_iff]
  rw [← read, flag]
  cases (reply.member? key).bind Json.toBool? <;> simp

theorem result?_eq_some_iff (reply : Json) (word : String) :
    result? reply = some word ↔ reply.member? "result" = some (.string word) := by
  simp [result?, Option.bind_eq_some_iff, toString?_eq_some_iff]

theorem allSuccessful_eq_true_iff (value : Json) :
    allSuccessful value = true ↔ ∃ n, value.member? "total" = some (.ofUInt64 n) ∧
      value.member? "successful" = some (.ofUInt64 n) := by
  have count (key : String) (n : UInt64) : (value.member? key).bind Json.toUInt64? = some n ↔
      value.member? key = some (.ofUInt64 n) := by
    simp [Option.bind_eq_some_iff, toUInt64?_eq_some_iff]
  simp only [← count, allSuccessful]
  split
  next total successful all done =>
    simp only [all, done, Option.some.injEq, beq_iff_eq]
    exact ⟨fun same => ⟨total, rfl, same.symm⟩, fun ⟨_, left, right⟩ => left.trans right.symm⟩
  next uncounted =>
    simp only [Bool.false_eq_true, false_iff]
    rintro ⟨n, all, done⟩
    exact uncounted n n all done

theorem any_allSuccessful_shards_iff (reply : Json) :
    (reply.member? "_shards").any allSuccessful = true ↔
      ∃ n, shards? "total" reply = some (.ofUInt64 n) ∧
        shards? "successful" reply = some (.ofUInt64 n) := by
  unfold shards?
  cases reply.member? "_shards" with
  | none => simp
  | some shards => simp [allSuccessful_eq_true_iff]

theorem isAcknowledged_eq_true_iff (reply : Json) :
    isAcknowledged reply = true ↔ ¬ ReportsError reply ∧ Acknowledges reply := by
  rw [isAcknowledged, Bool.and_eq_true, Option.isNone_iff_eq_none, error?_eq_none_iff_not]
  refine and_congr_right fun _ => ?_
  simp only [Bool.or_eq_true, any_allSuccessful_shards_iff]
  simp only [flag_eq_true_iff, allSuccessful_eq_true_iff, Option.any_eq_true,
    result?_eq_some_iff, List.contains_iff_mem]
  constructor
  · rintro ((((given | given) | ⟨n, total, successful⟩) | ⟨n, total, successful⟩) |
      ⟨word, given, done⟩)
    · exact .ok given
    · exact .acknowledged given
    · exact .counts n total successful
    · exact .shards n total successful
    · exact .result word given done
  · rintro (given | given | ⟨n, total, successful⟩ | ⟨n, total, successful⟩ | ⟨word, given, done⟩)
    · exact .inl (.inl (.inl (.inl given)))
    · exact .inl (.inl (.inl (.inr given)))
    · exact .inl (.inl (.inr ⟨n, total, successful⟩))
    · exact .inl (.inr ⟨n, total, successful⟩)
    · exact .inr ⟨word, given, done⟩

theorem saysMissing_eq_true_iff (reply : Json) : saysMissing reply = true ↔ DeniesFind reply := by
  have denied : (reply.member? "found").bind Json.toBool? = some false ↔
      reply.member? "found" = some (.bool false) := by
    simp [Option.bind_eq_some_iff, toBool?_eq_some_iff]
  rw [saysMissing, Bool.or_eq_true, beq_iff_eq, beq_iff_eq, denied, result?_eq_some_iff]
  constructor
  · rintro (given | given)
    · exact .found given
    · exact .result given
  · rintro (given | given)
    · exact .inl given
    · exact .inr given

/-! ## What does not matter -/

/-- Two replies that say the same of a write and its errors, whatever else they say. -/
structure SaysTheSame (reply reply' : Json) : Prop where
  members : ∀ key ∈ ["error", "ok", "acknowledged", "total", "successful", "result", "found"],
    reply'.member? key = reply.member? key
  shards : ∀ key ∈ ["total", "successful"], shards? key reply' = shards? key reply

theorem SaysTheSame.symm {reply reply' : Json} (same : SaysTheSame reply reply') :
    SaysTheSame reply' reply :=
  ⟨fun key looked => (same.members key looked).symm,
    fun key looked => (same.shards key looked).symm⟩

theorem Acknowledges.of_saysTheSame {reply reply' : Json} (acknowledged : Acknowledges reply)
    (same : SaysTheSame reply reply') : Acknowledges reply' := by
  cases acknowledged with
  | ok given => exact .ok ((same.members _ (by decide)).trans given)
  | acknowledged given => exact .acknowledged ((same.members _ (by decide)).trans given)
  | counts n total successful =>
    exact .counts n ((same.members _ (by decide)).trans total)
      ((same.members _ (by decide)).trans successful)
  | shards n total successful =>
    exact .shards n ((same.shards _ (by decide)).trans total)
      ((same.shards _ (by decide)).trans successful)
  | result word given done => exact .result word ((same.members _ (by decide)).trans given) done

theorem acknowledges_congr {reply reply' : Json} (same : SaysTheSame reply reply') :
    Acknowledges reply' ↔ Acknowledges reply :=
  ⟨(·.of_saysTheSame same.symm), (·.of_saysTheSame same)⟩

theorem DeniesFind.of_saysTheSame {reply reply' : Json} (denied : DeniesFind reply)
    (same : SaysTheSame reply reply') : DeniesFind reply' := by
  cases denied with
  | found given => exact .found ((same.members _ (by decide)).trans given)
  | result given => exact .result ((same.members _ (by decide)).trans given)

theorem deniesFind_congr {reply reply' : Json} (same : SaysTheSame reply reply') :
    DeniesFind reply' ↔ DeniesFind reply :=
  ⟨(·.of_saysTheSame same.symm), (·.of_saysTheSame same)⟩

theorem reportsError_congr {reply reply' : Json} (same : SaysTheSame reply reply') :
    ReportsError reply' ↔ ReportsError reply := by
  rw [ReportsError, ReportsError, same.members "error" (by decide)]

theorem reportsFind_congr {reply reply' : Json} (same : SaysTheSame reply reply') :
    ReportsFind reply' ↔ ReportsFind reply := by
  rw [ReportsFind, ReportsFind, same.members "found" (by decide)]

theorem checkError_of_reportsError {reply e : Json} (given : reply.member? "error" = some e)
    (nonnull : e ≠ .null) : checkError reply = .error (.backend (.reported e) reply) := by
  rw [checkError, (error?_eq_some_iff reply e).mpr ⟨given, nonnull⟩]

theorem checkError_of_sound {reply : Json} (sound : ¬ ReportsError reply) :
    checkError reply = .ok () := by
  rw [checkError_eq_ok_iff, error?_eq_none_iff_not]
  exact sound

/-- The failure, read from another reply. -/
def Failure.about (reply : Json) : Failure → Failure
  | .unexpected fault _ => .unexpected fault reply
  | .backend fault _ => .backend fault reply
  | .notAcknowledged _ => .notAcknowledged reply

end Reply

/-- The error, read from another reply. -/
def SearchError.about (reply : Json) : SearchError → SearchError
  | .reply failure => .reply (failure.about reply)
  | error => error

open Reply

/-! ## Outcomes -/

/-- What storing a document comes to, given the reply. -/
inductive IsStored (reply : Json) : Except SearchError Json → Prop
  | failed (e : Json) (given : reply.member? "error" = some e) (nonnull : e ≠ .null) :
      IsStored reply (.error (.reply (.backend (.reported e) reply)))
  | acknowledged (sound : ¬ ReportsError reply) (said : Acknowledges reply) :
      IsStored reply (.ok reply)
  | unacknowledged (sound : ¬ ReportsError reply) (unsaid : ¬ Acknowledges reply) :
      IsStored reply (.error (.reply (.notAcknowledged reply)))

/-- What deleting a document comes to, given the reply. -/
inductive IsDeleted (reply : Json) : Except SearchError Bool → Prop
  | failed (e : Json) (given : reply.member? "error" = some e) (nonnull : e ≠ .null) :
      IsDeleted reply (.error (.reply (.backend (.reported e) reply)))
  | missing (sound : ¬ ReportsError reply) (denied : DeniesFind reply) :
      IsDeleted reply (.ok false)
  | found (sound : ¬ ReportsError reply) (undenied : ¬ DeniesFind reply)
      (said : ReportsFind reply ∨ Acknowledges reply) : IsDeleted reply (.ok true)
  | unacknowledged (sound : ¬ ReportsError reply) (undenied : ¬ DeniesFind reply)
      (unsaid : ¬ (ReportsFind reply ∨ Acknowledges reply)) :
      IsDeleted reply (.error (.reply (.notAcknowledged reply)))

section
variable {reply : Json}

/-- No reply stores a document in two ways. -/
theorem IsStored.eq {a b : Except SearchError Json} (first : IsStored reply a)
    (second : IsStored reply b) : a = b := by
  cases first with
  | failed e given nonnull =>
    cases second with
    | failed e' given' => cases given.symm.trans given'; rfl
    | acknowledged sound | unacknowledged sound => exact absurd ⟨e, given, nonnull⟩ sound
  | acknowledged sound said =>
    cases second with
    | failed e given nonnull => exact absurd ⟨e, given, nonnull⟩ sound
    | acknowledged => rfl
    | unacknowledged _ unsaid => exact absurd said unsaid
  | unacknowledged sound unsaid =>
    cases second with
    | failed e given nonnull => exact absurd ⟨e, given, nonnull⟩ sound
    | acknowledged _ said => exact absurd said unsaid
    | unacknowledged => rfl

theorem IsDeleted.eq {a b : Except SearchError Bool} (first : IsDeleted reply a)
    (second : IsDeleted reply b) : a = b := by
  cases first with
  | failed e given nonnull =>
    cases second with
    | failed e' given' => cases given.symm.trans given'; rfl
    | missing sound | found sound | unacknowledged sound =>
      exact absurd ⟨e, given, nonnull⟩ sound
  | missing sound denied =>
    cases second with
    | failed e given nonnull => exact absurd ⟨e, given, nonnull⟩ sound
    | missing => rfl
    | found _ undenied | unacknowledged _ undenied => exact absurd denied undenied
  | found sound undenied said =>
    cases second with
    | failed e given nonnull => exact absurd ⟨e, given, nonnull⟩ sound
    | missing _ denied => exact absurd denied undenied
    | found => rfl
    | unacknowledged _ _ unsaid => exact absurd said unsaid
  | unacknowledged sound undenied unsaid =>
    cases second with
    | failed e given nonnull => exact absurd ⟨e, given, nonnull⟩ sound
    | missing _ denied => exact absurd denied undenied
    | found _ _ said => exact absurd said unsaid
    | unacknowledged => rfl

theorem IsStored.of_saysTheSame {reply' : Json} (same : SaysTheSame reply reply')
    {outcome : Except SearchError Json} (stored : IsStored reply outcome) :
    IsStored reply' ((outcome.map fun _ => reply').mapError (·.about reply')) := by
  have sounds := not_congr (reportsError_congr same)
  have said := acknowledges_congr same
  cases stored with
  | failed e given nonnull => exact .failed e ((same.members _ (by decide)).trans given) nonnull
  | acknowledged sound yes => exact .acknowledged (sounds.mpr sound) (said.mpr yes)
  | unacknowledged sound no => exact .unacknowledged (sounds.mpr sound) (mt said.mp no)

theorem IsDeleted.of_saysTheSame {reply' : Json} (same : SaysTheSame reply reply')
    {outcome : Except SearchError Bool} (deleted : IsDeleted reply outcome) :
    IsDeleted reply' (outcome.mapError (·.about reply')) := by
  have sounds := not_congr (reportsError_congr same)
  have denials := deniesFind_congr same
  have said := or_congr (reportsFind_congr same) (acknowledges_congr same)
  cases deleted with
  | failed e given nonnull => exact .failed e ((same.members _ (by decide)).trans given) nonnull
  | missing sound denied => exact .missing (sounds.mpr sound) (denials.mpr denied)
  | found sound undenied yes =>
    exact .found (sounds.mpr sound) (mt denials.mp undenied) (said.mpr yes)
  | unacknowledged sound undenied no =>
    exact .unacknowledged (sounds.mpr sound) (mt denials.mp undenied) (mt said.mp no)

theorem isStored_indexed (reply : Json) : IsStored reply ((indexed reply).mapError .reply) := by
  by_cases error : ReportsError reply
  · obtain ⟨e, given, nonnull⟩ := error
    rw [indexed, checkError_of_reportsError given nonnull]
    exact .failed e given nonnull
  · have read : indexed reply =
        if isAcknowledged reply then .ok reply else .error (.notAcknowledged reply) := by
      rw [indexed, checkError_of_sound error]
      rfl
    have said := isAcknowledged_eq_true_iff reply
    rw [read]
    split
    next yes => exact .acknowledged error (said.mp yes).2
    next no => exact .unacknowledged error fun yes => no (said.mpr ⟨error, yes⟩)

theorem isDeleted_deleted (reply : Json) : IsDeleted reply ((deleted reply).mapError .reply) := by
  by_cases error : ReportsError reply
  · obtain ⟨e, given, nonnull⟩ := error
    rw [deleted, checkError_of_reportsError given nonnull]
    exact .failed e given nonnull
  · have read : deleted reply = if saysMissing reply then .ok false
        else if flag "found" reply || isAcknowledged reply then .ok true
        else .error (.notAcknowledged reply) := by
      rw [deleted, checkError_of_sound error]
      rfl
    have denials := saysMissing_eq_true_iff reply
    have said : (flag "found" reply || isAcknowledged reply) = true ↔
        ReportsFind reply ∨ Acknowledges reply := by
      rw [Bool.or_eq_true, flag_eq_true_iff, isAcknowledged_eq_true_iff, and_iff_right error,
        ReportsFind]
    rw [read]
    split
    next denied => exact .missing error (denials.mp denied)
    next undenied =>
      split
      next yes => exact .found error (mt denials.mpr undenied) (said.mp yes)
      next no => exact .unacknowledged error (mt denials.mpr undenied) (mt said.mpr no)

end

namespace SearchClient

/-- Writes divide the replies among their outcomes. Both fail by the backend's error exactly if the
reply reports one, and such a reply acknowledges nothing. Otherwise a document is stored exactly if
the reply acknowledges it; and a deletion finds nothing exactly if the reply denies the find,
whatever it says besides, and else something exactly if the reply reports the find or acknowledges
the deletion. A reply without any of these is given back as no acknowledgement. Replies that agree
on what is looked at have the same outcomes, but for the reply they carry. -/
theorem writes_divide_replies (c : SearchClient) (id : String) (doc : Json)
    {storing : Exchange Json} {deleting : Exchange Bool} (puts : c.index id doc = .ok storing)
    (deletes : c.delete id = .ok deleting) (reply : Json) :
    (∀ outcome, storing.conclude (.ok reply) = outcome ↔ IsStored reply outcome) ∧
    (∀ outcome, deleting.conclude (.ok reply) = outcome ↔ IsDeleted reply outcome) ∧
    (isAcknowledged reply = true ↔ ¬ ReportsError reply ∧ Acknowledges reply) ∧
    ∀ reply', SaysTheSame reply reply' →
      storing.conclude (.ok reply') =
        ((storing.conclude (.ok reply)).map fun _ => reply').mapError (·.about reply') ∧
      deleting.conclude (.ok reply') =
        (deleting.conclude (.ok reply)).mapError (·.about reply') ∧
      isAcknowledged reply' = isAcknowledged reply := by
  have stored (reply : Json) : IsStored reply (storing.conclude (.ok reply)) := by
    rw [Exchange.conclude, (c.index_eq_ok id doc storing puts).2.2]
    exact isStored_indexed reply
  have deleted (reply : Json) : IsDeleted reply (deleting.conclude (.ok reply)) := by
    rw [Exchange.conclude, (c.delete_eq_ok id deleting deletes).2]
    exact isDeleted_deleted reply
  refine ⟨fun outcome => ?_, fun outcome => ?_, isAcknowledged_eq_true_iff reply,
    fun reply' same => ⟨?_, ?_, ?_⟩⟩
  · exact ⟨fun read => read ▸ stored reply, (stored reply).eq⟩
  · exact ⟨fun read => read ▸ deleted reply, (deleted reply).eq⟩
  · exact (stored reply').eq ((stored reply).of_saysTheSame same)
  · exact (deleted reply').eq ((deleted reply).of_saysTheSame same)
  · rw [Bool.eq_iff_iff, isAcknowledged_eq_true_iff, isAcknowledged_eq_true_iff,
      reportsError_congr same, acknowledges_congr same]

/-- Acknowledges, and says both that the document was there and that it was not. -/
def undecided : Json :=
  .object [("found", .bool true), ("result", .string "not_found"), ("acknowledged", .bool true)]

/-- The same, with shards that are not counted and the time it took. -/
def undecidedAtLength : Json :=
  .object [("took", .ofUInt64 3), ("found", .bool true), ("result", .string "not_found"),
    ("_shards", .object [("failed", .ofUInt64 0)]), ("acknowledged", .bool true)]

/-- The document is stored or missing, by either reply. -/
theorem undecided_divided :
    lions.index "simba" (.object [("cub", .bool true)]) = .ok storing ∧
    lions.delete "simba" = .ok simba ∧
    SaysTheSame undecided undecidedAtLength ∧
    storing.conclude (.ok undecided) = .ok undecided ∧
    simba.conclude (.ok undecided) = .ok false ∧
    storing.conclude (.ok undecidedAtLength) = .ok undecidedAtLength ∧
    simba.conclude (.ok undecidedAtLength) = .ok false := by
  have puts : lions.index "simba" (.object [("cub", .bool true)]) = .ok storing :=
    lions.index_eq lions_isPlain "simba" _
  have same : SaysTheSame undecided undecidedAtLength := ⟨by decide, by decide⟩
  obtain ⟨stored, deleted, -, rest⟩ :=
    lions.writes_divide_replies "simba" _ puts delete_simba undecided
  have sound : ¬ ReportsError undecided := by
    rintro ⟨e, given, -⟩
    cases given
  have kept := (stored (.ok undecided)).mpr (.acknowledged sound (.acknowledged rfl))
  have missing := (deleted (.ok false)).mpr (.missing sound (.result rfl))
  obtain ⟨keptAtLength, missingAtLength, -⟩ := rest undecidedAtLength same
  rw [kept] at keptAtLength
  rw [missing] at missingAtLength
  exact ⟨puts, delete_simba, same, kept, missing, keptAtLength, missingAtLength⟩

end SearchClient
end DocSearch
