import DocSearch.Proofs.Query.Body
import DocSearch.Proofs.Query.Grammar
import DocSearch.Proofs.Reply.Completeness

/-!
# Buckets as they were asked for

What it is for the results of a reply to answer the aggregations of a request, and which of them is
the result of grouping by a field, said by the names in the request alone. The reader of replies
does not know the request: it looks for the buckets within a filter first, and outside of one if
there are none. For the requests that options compile to, it finds the result that was asked for.
-/
namespace DocSearch

/-! ## Aggregations and their results -/

namespace Aggregations

/-- The aggregations within one that filters. -/
def within? (body : Json) : Option Json := do
  let _ ← body.member? "filter"
  body.member? "aggs"

/-- An aggregation of terms of this field. -/
def GroupsBy (field : String) (body : Json) : Prop :=
  (body.member? "terms").bind (Json.member? "field") = some (.string field)

/-- The results have one for the aggregation under its name. If the aggregation filters, its result
has one for each aggregation within it, beside any other members. -/
inductive Answered : (name : String) → (body results : Json) → Prop
  | intro {name : String} {body results result : Json} (found : results.member? name = some result)
      (each : ∀ aggs inner b, within? body = some aggs → aggs.member? inner = some b →
        Answered inner b result) :
      Answered name body results

/-- The results answer each of the aggregations, and have no others. -/
structure Answers (aggs results : Json) : Prop where
  each : ∀ name body, aggs.member? name = some body → Answered name body results
  noFurther : ∀ name, results.member? name ≠ none → aggs.member? name ≠ none

/-- What the results give for a grouping by the field, wherever it stands among the
aggregations. -/
inductive ResultOf (field : String) : (aggs results result : Json) → Prop
  | here {aggs results result body : Json} {name : String} (asked : aggs.member? name = some body)
      (groups : GroupsBy field body) (found : results.member? name = some result) :
      ResultOf field aggs results result
  | within {aggs results result body inner outer : Json} {name : String}
      (asked : aggs.member? name = some body) (filters : within? body = some inner)
      (found : results.member? name = some outer) (deeper : ResultOf field inner outer result) :
      ResultOf field aggs results result

/-! ## A single aggregation -/

theorem member?_single (key name : String) (v : Json) :
    (Clause.single key v).member? name = if key = name then some v else none := rfl

theorem answers_single_iff (name : String) (body results : Json) :
    Answers (Clause.single name body) results ↔
      Answered name body results ∧ ∀ other, results.member? other ≠ none → other = name := by
  constructor
  · rintro ⟨each, noFurther⟩
    refine ⟨each name body (by simp [member?_single]), fun other present => ?_⟩
    have asked := noFurther other present
    simp only [member?_single, ne_eq, ite_eq_right_iff, reduceCtorEq, imp_false,
      Decidable.not_not] at asked
    exact asked.symm
  · rintro ⟨answered, only⟩
    constructor
    · intro other b asked
      simp only [member?_single, Option.ite_none_right_eq_some, Option.some.injEq] at asked
      obtain ⟨rfl, rfl⟩ := asked
      exact answered
    · intro other present
      simp [member?_single, only other present]

theorem resultOf_single_iff (field name : String) (body results result : Json) :
    ResultOf field (Clause.single name body) results result ↔
      GroupsBy field body ∧ results.member? name = some result ∨
      ∃ inner outer, within? body = some inner ∧ results.member? name = some outer ∧
        ResultOf field inner outer result := by
  have asked_iff : ∀ {other b}, (Clause.single name body).member? other = some b ↔
      name = other ∧ body = b := by
    intro other b
    simp [member?_single]
  constructor
  · intro given
    cases given with
    | here asked groups found =>
      obtain ⟨rfl, rfl⟩ := asked_iff.mp asked
      exact .inl ⟨groups, found⟩
    | within asked filters found deeper =>
      obtain ⟨rfl, rfl⟩ := asked_iff.mp asked
      exact .inr ⟨_, _, filters, found, deeper⟩
  · rintro (⟨groups, found⟩ | ⟨inner, outer, filters, found, deeper⟩)
    · exact .here (asked_iff.mpr ⟨rfl, rfl⟩) groups found
    · exact .within (asked_iff.mpr ⟨rfl, rfl⟩) filters found deeper

end Aggregations

/-! ## The aggregation that is sent -/

namespace GroupAggregation

open Aggregations

/-- The name at the top of the aggregation. -/
def outerName (a : GroupAggregation) : String :=
  if a.filter.isSome then filteredName else bucketsName

/-- The result of the grouping, where the aggregation asks for it. -/
def resultIn? (a : GroupAggregation) (results : Json) : Option Json :=
  match a.filter with
  | none => results.member? bucketsName
  | some _ => (results.member? filteredName).bind (Json.member? bucketsName)

theorem answered_terms_iff (field : String) (results : Json) :
    Answered bucketsName (terms field) results ↔ ∃ r, results.member? bucketsName = some r := by
  constructor
  · rintro ⟨found, -⟩
    exact ⟨_, found⟩
  · rintro ⟨r, found⟩
    exact .intro found fun _ _ _ filters => by cases filters

theorem resultOf_terms_iff (field : String) (results r : Json) :
    ResultOf field (Clause.single bucketsName (terms field)) results r ↔
      results.member? bucketsName = some r := by
  rw [resultOf_single_iff]
  constructor
  · rintro (⟨-, found⟩ | ⟨_, _, filters, -⟩)
    · exact found
    · cases filters
  · intro found
    exact .inl ⟨rfl, found⟩

/-- The results answer the aggregation if the result of the grouping is where it was asked for, and
nothing else is at the top. -/
theorem answers_toJson_iff (a : GroupAggregation) (results : Json) :
    Answers a.toJson results ↔
      (∃ r, a.resultIn? results = some r) ∧
        ∀ name, results.member? name ≠ none → name = a.outerName := by
  rw [toJson_eq, resultIn?, outerName]
  cases a.filter with
  | none => exact (answers_single_iff _ _ _).trans (and_congr_left' (answered_terms_iff _ _))
  | some f =>
    refine (answers_single_iff _ _ _).trans (and_congr_left' ?_)
    simp only [Option.bind_eq_some_iff]
    constructor
    · rintro ⟨found, each⟩
      obtain ⟨r, deeper⟩ := (answered_terms_iff _ _).mp (each _ _ _ rfl rfl)
      exact ⟨r, _, found, deeper⟩
    · rintro ⟨r, outer, found, deeper⟩
      refine .intro found fun aggs inner b filters asked => ?_
      cases filters
      simp only [member?_single, Option.ite_none_right_eq_some, Option.some.injEq] at asked
      obtain ⟨rfl, rfl⟩ := asked
      exact (answered_terms_iff _ _).mpr ⟨r, deeper⟩

theorem resultOf_toJson_iff (a : GroupAggregation) (results r : Json) :
    ResultOf a.field a.toJson results r ↔ a.resultIn? results = some r := by
  rw [toJson_eq, resultIn?]
  cases a.filter with
  | none => exact resultOf_terms_iff _ _ _
  | some f =>
    simp only [resultOf_single_iff, Option.bind_eq_some_iff]
    constructor
    · rintro (⟨groups, -⟩ | ⟨inner, outer, filters, found, deeper⟩)
      · cases groups
      · cases filters
        exact ⟨outer, found, (resultOf_terms_iff _ _ _).mp deeper⟩
    · rintro ⟨outer, found, deeper⟩
      exact .inr ⟨_, outer, rfl, found, (resultOf_terms_iff _ _ _).mpr deeper⟩

end GroupAggregation

theorem QueryDocument.member?_aggs_toJson (q : QueryDocument) :
    q.toJson.member? "aggs" = q.aggregation.map GroupAggregation.toJson :=
  q.member?_toJson.2.2.2.2

/-! ## The reader -/

namespace Reply

open Aggregations

/-- The buckets are found where they were asked for, though the reader does not know where that
is. -/
theorem buckets?_eq_resultIn? (a : GroupAggregation) (reply results : Json)
    (given : reply.member? "aggregations" = some results) (answers : Answers a.toJson results) :
    buckets? reply = a.resultIn? results := by
  obtain ⟨⟨r, found⟩, only⟩ := (a.answers_toJson_iff results).mp answers
  have reads : buckets? reply =
      ((results.member? GroupAggregation.filteredName).bind
        (Json.member? GroupAggregation.bucketsName)).or
        (results.member? GroupAggregation.bucketsName) := by
    simp [buckets?, given]
  rw [reads]
  unfold GroupAggregation.resultIn? at found ⊢
  unfold GroupAggregation.outerName at only
  cases filter : a.filter with
  | none =>
    -- Nothing can be found within a filter, as nothing is there under its name.
    have unfiltered : results.member? GroupAggregation.filteredName = none :=
      Decidable.byContradiction fun present => by
        simpa [filter, GroupAggregation.filteredName, GroupAggregation.bucketsName] using
          only _ present
    simp [unfiltered]
  | some f =>
    simp only [filter] at found
    simp [found]

/-- The reader returns the one result of the grouping. -/
theorem aggregated_of_answers (a : GroupAggregation) (reply results : Json) (hits : Hits)
    (given : reply.member? "aggregations" = some results) (answers : Answers a.toJson results)
    (read : searchHits reply = .ok hits) :
    ∃ buckets, (∀ r, ResultOf a.field a.toJson results r ↔ r = buckets) ∧
      aggregated reply = .ok { hits, buckets := some buckets } := by
  obtain ⟨⟨buckets, here⟩, -⟩ := (a.answers_toJson_iff results).mp answers
  have found : buckets? reply = some buckets := by
    rw [buckets?_eq_resultIn? a reply results given answers, here]
  refine ⟨buckets, fun r => ?_, (aggregated_eq_ok_iff reply _).mpr ⟨read, found.symm⟩⟩
  rw [a.resultOf_toJson_iff, here, Option.some.injEq, eq_comm]

/-- Compiled aggregations and the reader of their replies agree. If hits can be read from a reply
whose results answer the aggregations that were sent, the buckets read from it are the one result
that they give for grouping by the field of the options. And whatever the reply, reading the buckets
with the hits fails exactly as reading the hits alone does, and gives the same hits. -/
theorem buckets_read_as_asked (reply : Json) :
    (∀ (o : AggregationOptions) (q : QueryDocument), o.compile = .ok q →
      ∃ aggs field, q.toJson.member? "aggs" = some aggs ∧ o.groupBy = some field ∧
        ∀ results hits, reply.member? "aggregations" = some results → Answers aggs results →
          searchHits reply = .ok hits →
          ∃ buckets, (∀ r, ResultOf field aggs results r ↔ r = buckets) ∧
            aggregated reply = .ok { hits, buckets := some buckets }) ∧
    (∀ f, aggregated reply = .error f ↔ searchHits reply = .error f) ∧
    (∀ hits, searchHits reply = .ok hits ↔ ∃ buckets, aggregated reply = .ok { hits, buckets }) := by
  refine ⟨fun o q compiled => ?_, aggregated_eq_error_iff reply, fun hits => ?_⟩
  · obtain ⟨-, field, groupBy, -, rfl⟩ := (o.compile_eq_ok_iff q).mp compiled
    exact ⟨_, field, QueryDocument.member?_aggs_toJson _, groupBy,
      fun results hits => aggregated_of_answers _ reply results hits⟩
  · simp only [aggregated_eq_ok_iff]
    exact ⟨fun read => ⟨_, read, rfl⟩, fun ⟨_, read, _⟩ => read⟩

/-- The regions of those that are not young. -/
def regionsOfGrown : AggregationOptions where
  range := ({} : Branches).insert .must "age" (.object [("gte", .ofUInt64 3)])
  groupBy := some "region"

/-- The buckets come back within the filter, beside the number of documents that it left. -/
theorem regionsOfGrown_read :
    let buckets := Json.object [("buckets", .array [.object [("key", .string "africa")]])]
    let results := Json.object
      [("filtered", .object [("doc_count", .ofUInt64 2), ("group_by", buckets)])]
    let reply := Json.object
      [("hits", .object [("total", .ofUInt64 5), ("hits", .array [])]), ("aggregations", results)]
    ∃ q aggs, regionsOfGrown.compile = .ok q ∧ q.toJson.member? "aggs" = some aggs ∧
      Answers aggs results ∧ ResultOf "region" aggs results buckets ∧
      searchHits reply = .ok { total := { count := 5 }, hits := [] } ∧
      aggregated reply =
        .ok { hits := { total := { count := 5 }, hits := [] }, buckets := some buckets } := by
  intro buckets results reply
  have compiled := (regionsOfGrown.compile_eq_ok_iff _).mpr
    ⟨by decide, "region", rfl, by decide, rfl⟩
  obtain ⟨aggs, field, sent, groupBy, reads⟩ :=
    (buckets_read_as_asked reply).1 regionsOfGrown _ compiled
  obtain rfl : "region" = field := Option.some.inj groupBy
  have same := Option.some.inj (sent.symm.trans (QueryDocument.member?_aggs_toJson _))
  have answers : Answers aggs results := by
    rw [same]
    refine (GroupAggregation.answers_toJson_iff _ results).mpr
      ⟨⟨buckets, rfl⟩, fun name present => Decidable.byContradiction fun other => ?_⟩
    exact present (if_neg (Ne.symm other))
  have asked : ResultOf "region" aggs results buckets := by
    rw [same]
    exact (GroupAggregation.resultOf_toJson_iff ⟨"region", _⟩ results buckets).mpr rfl
  obtain ⟨found, only, read⟩ := reads results ⟨⟨5, .exact⟩, []⟩ rfl answers rfl
  rw [← (only buckets).mp asked] at read
  exact ⟨_, aggs, compiled, sent, answers, asked, rfl, read⟩

end Reply
end DocSearch
