import DocSearch.Proofs.Backend.WriteOutcomes

/-!
# The reason of a reported error

A backend that reports an error as an object says under `reason` what went wrong and under `type`
which kind of error it is; either may be missing, or be something else than a string. Whatever the
reply was to, it comes back whole with the error. The reason is the string under `reason`, or else
the one under `type`, with one exception: the kind is only looked for where there is no `reason` at
all, so one that is no string hides it.
-/
namespace DocSearch

namespace Reply

/-- What an error with these members says of itself: its reason, else its kind, else nothing. -/
inductive SaysReason (error : Json.Members) : String → Prop
  | reason {text : String} (given : Json.Members.find? "reason" error = some (.string text)) :
      SaysReason error text
  | kind {text : String}
      (unreasoned : ∀ reason, Json.Members.find? "reason" error ≠ some (.string reason))
      (given : Json.Members.find? "type" error = some (.string text)) : SaysReason error text
  | unknown (unreasoned : ∀ reason, Json.Members.find? "reason" error ≠ some (.string reason))
      (unnamed : ∀ kind, Json.Members.find? "type" error ≠ some (.string kind)) :
      SaysReason error "unknown backend error"

/-- The error names its kind, beside a `reason` that is no string. -/
structure HidesKind (error : Json.Members) (kind : String) : Prop where
  reason : ∃ v, Json.Members.find? "reason" error = some v
  unreasoned : ∀ reason, Json.Members.find? "reason" error ≠ some (.string reason)
  named : Json.Members.find? "type" error = some (.string kind)

section
variable {error : Json.Members}

/-- No error says two things of itself. -/
theorem SaysReason.eq {a b : String} (first : SaysReason error a) (second : SaysReason error b) :
    a = b := by
  cases first with
  | reason given =>
    cases second with
    | reason given' => simpa [given] using given'
    | kind unreasoned => exact absurd given (unreasoned _)
    | unknown unreasoned => exact absurd given (unreasoned _)
  | kind unreasoned given =>
    cases second with
    | reason given' => exact absurd given' (unreasoned _)
    | kind _ given' => simpa [given] using given'
    | unknown _ unnamed => exact absurd given (unnamed _)
  | unknown unreasoned unnamed =>
    cases second with
    | reason given' => exact absurd given' (unreasoned _)
    | kind _ given' => exact absurd given' (unnamed _)
    | unknown => rfl

/-! ## What is read -/

theorem bind_toString?_eq_none {v : Option Json} (textless : ∀ s, v ≠ some (.string s)) :
    v.bind Json.toString? = none := by
  cases v with
  | none => rfl
  | some v =>
    rw [Option.bind_some, Option.eq_none_iff_forall_ne_some]
    intro s read
    apply textless s
    rw [(toString?_eq_some_iff v s).mp read]

theorem errorReason_of_reason {text : String}
    (given : Json.Members.find? "reason" error = some (.string text)) :
    BackendFault.errorReason (.object error) = text := by
  simp [BackendFault.errorReason, given, Json.toString?]

theorem errorReason_of_kind {kind : String} (absent : Json.Members.find? "reason" error = none)
    (given : Json.Members.find? "type" error = some (.string kind)) :
    BackendFault.errorReason (.object error) = kind := by
  simp [BackendFault.errorReason, absent, given, Json.toString?]

theorem errorReason_of_nothing
    (unreasoned : ∀ reason, Json.Members.find? "reason" error ≠ some (.string reason))
    (unnamed : ∀ kind, Json.Members.find? "type" error ≠ some (.string kind)) :
    BackendFault.errorReason (.object error) = unknownReason := by
  have textless : ∀ s, (Json.Members.find? "reason" error).or
      (Json.Members.find? "type" error) ≠ some (.string s) := by
    intro s
    cases found : Json.Members.find? "reason" error with
    | none => exact unnamed s
    | some v =>
      rw [Option.some_or, ← found]
      exact unreasoned s
  rw [BackendFault.errorReason, bind_toString?_eq_none textless, Option.getD_none]

/-- The kind is not looked for behind a `reason`, whatever that is. -/
theorem errorReason_of_hidesKind {kind : String} (hidden : HidesKind error kind) :
    BackendFault.errorReason (.object error) = unknownReason := by
  obtain ⟨v, found⟩ := hidden.reason
  have textless := bind_toString?_eq_none hidden.unreasoned
  rw [found] at textless
  rw [BackendFault.errorReason, found, Option.some_or, textless, Option.getD_none]

/-- What is read is what the error says of itself, unless it hides its kind. -/
theorem saysReason_errorReason (exposed : ∀ kind, ¬ HidesKind error kind) :
    SaysReason error (BackendFault.errorReason (.object error)) := by
  by_cases reasoned : ∃ text, Json.Members.find? "reason" error = some (.string text)
  · obtain ⟨text, given⟩ := reasoned
    rw [errorReason_of_reason given]
    exact .reason given
  · have unreasoned := not_exists.mp reasoned
    by_cases named : ∃ kind, Json.Members.find? "type" error = some (.string kind)
    · obtain ⟨kind, given⟩ := named
      have absent : Json.Members.find? "reason" error = none := by
        rw [Option.eq_none_iff_forall_ne_some]
        intro v found
        exact exposed kind ⟨⟨v, found⟩, unreasoned, given⟩
      rw [errorReason_of_kind absent given]
      exact .kind unreasoned given
    · have unnamed := not_exists.mp named
      rw [errorReason_of_nothing unreasoned unnamed]
      exact .unknown unreasoned unnamed

/-- A hidden kind is lost, unless its text is the one for an unknown error. -/
theorem saysReason_errorReason_iff :
    SaysReason error (BackendFault.errorReason (.object error)) ↔
      ∀ kind, HidesKind error kind → kind = unknownReason := by
  constructor
  · intro said kind hidden
    rw [errorReason_of_hidesKind hidden] at said
    exact (SaysReason.kind hidden.unreasoned hidden.named).eq said
  · intro harmless
    by_cases exposed : ∀ kind, ¬ HidesKind error kind
    · exact saysReason_errorReason exposed
    · simp only [not_forall, not_not] at exposed
      obtain ⟨kind, hidden⟩ := exposed
      rw [errorReason_of_hidesKind hidden, ← harmless kind hidden]
      exact .kind hidden.unreasoned hidden.named

end

/-! ## Who reads it -/

section
variable {reply e : Json} (given : reply.member? "error" = some e) (nonnull : e ≠ .null)
include given nonnull

theorem searchHits_of_reportsError :
    searchHits reply = .error (.backend (.reported e) reply) := by
  rw [searchHits, checkComplete, checkError_of_reportsError given nonnull]
  rfl

theorem aggregated_of_reportsError :
    aggregated reply = .error (.backend (.reported e) reply) := by
  rw [aggregated_eq_error_iff]
  exact searchHits_of_reportsError given nonnull

theorem indexed_of_reportsError : indexed reply = .error (.backend (.reported e) reply) := by
  rw [indexed, checkError_of_reportsError given nonnull]
  rfl

theorem deleted_of_reportsError : deleted reply = .error (.backend (.reported e) reply) := by
  rw [deleted, checkError_of_reportsError given nonnull]
  rfl

end

end Reply

open Reply

namespace SearchClient

/-- An error that is an object comes back with its reply from every reading: that of a search, of
an aggregation, of a document stored and of one deleted. The reason is what the error says of
itself exactly unless it hides its kind; then the reason is that of an unknown error. -/
theorem errors_told_unless_kind_hidden (c : SearchClient) (id : String) (doc : Json)
    {storing : Exchange Json} {deleting : Exchange Bool} (puts : c.index id doc = .ok storing)
    (deletes : c.delete id = .ok deleting) (reply : Json) (error : Json.Members)
    (reported : reply.member? "error" = some (.object error)) :
    let fault : BackendFault := .reported (.object error)
    searchHits reply = .error (.backend fault reply) ∧
    aggregated reply = .error (.backend fault reply) ∧
    storing.conclude (.ok reply) = .error (.reply (.backend fault reply)) ∧
    deleting.conclude (.ok reply) = .error (.reply (.backend fault reply)) ∧
    (SearchError.reply (.backend fault reply)).reply? = some reply ∧
    (SearchError.reply (.backend fault reply)).message = "Backend error: " ++ fault.reason ∧
    (SaysReason error fault.reason ↔ ∀ kind, HidesKind error kind → kind = unknownReason) ∧
    ∀ kind, HidesKind error kind → fault.reason = unknownReason := by
  intro fault
  have nonnull : Json.object error ≠ .null := by
    intro null
    cases null
  refine ⟨searchHits_of_reportsError reported nonnull, aggregated_of_reportsError reported nonnull,
    ?_, ?_, rfl, rfl, saysReason_errorReason_iff, fun kind hidden => errorReason_of_hidesKind hidden⟩
  · rw [Exchange.conclude, (c.index_eq_ok id doc storing puts).2.2,
      indexed_of_reportsError reported nonnull]
    rfl
  · rw [Exchange.conclude, (c.delete_eq_ok id deleting deletes).2,
      deleted_of_reportsError reported nonnull]
    rfl

/-- An error that names its kind, behind these members. -/
def indexMissing (before : Json.Members) : Json.Members :=
  before ++ [("type", .string "index_not_found_exception"), ("index", .string "zoo-lions")]

/-- The reply to a request that ended with such an error. -/
def refusal (error : Json.Members) : Json :=
  .object [("error", .object error), ("status", .ofUInt64 404)]

/-- Without a reason the kind is told. -/
theorem indexMissing_told :
    lions.index "simba" (.object [("cub", .bool true)]) = .ok storing ∧
    lions.delete "simba" = .ok simba ∧
    (refusal (indexMissing [])).member? "error" = some (.object (indexMissing [])) ∧
    SaysReason (indexMissing [])
      (BackendFault.reported (.object (indexMissing []))).reason ∧
    (BackendFault.reported (.object (indexMissing []))).reason = "index_not_found_exception" := by
  have puts : lions.index "simba" (.object [("cub", .bool true)]) = .ok storing :=
    lions.index_eq lions_isPlain "simba" _
  have told := lions.errors_told_unless_kind_hidden "simba" _ puts delete_simba
    (refusal (indexMissing [])) (indexMissing []) rfl
  have exposed : ∀ kind, HidesKind (indexMissing []) kind → kind = unknownReason := by
    intro kind hidden
    obtain ⟨v, found⟩ := hidden.reason
    cases found
  exact ⟨puts, delete_simba, rfl, told.2.2.2.2.2.2.1.mpr exposed, rfl⟩

/-- A `reason` that is null, or an object, hides the kind; then each reading tells of an unknown
error. -/
theorem kind_hidden_by_reason :
    let null := indexMissing [("reason", .null)]
    let nested := indexMissing [("reason", .object [("text", .string "no such index")])]
    ∀ error ∈ [null, nested],
      let fault : BackendFault := .reported (.object error)
      SaysReason error "index_not_found_exception" ∧
      fault.reason = "unknown backend error" ∧
      searchHits (refusal error) = .error (.backend fault (refusal error)) ∧
      aggregated (refusal error) = .error (.backend fault (refusal error)) ∧
      storing.conclude (.ok (refusal error)) =
        .error (.reply (.backend fault (refusal error))) ∧
      simba.conclude (.ok (refusal error)) =
        .error (.reply (.backend fault (refusal error))) := by
  intro null nested
  simp only [List.forall_mem_cons]
  refine ⟨⟨?_, rfl, rfl, rfl, rfl, rfl⟩, ⟨?_, rfl, rfl, rfl, rfl, rfl⟩, by simp⟩
  · refine SaysReason.kind ?_ rfl
    intro reason given
    cases given
  · refine SaysReason.kind ?_ rfl
    intro reason given
    cases given

end SearchClient
end DocSearch
