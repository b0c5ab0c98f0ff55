import DocSearch.Proofs.Query.Body
import DocSearch.Proofs.Query.Meaning
import DocSearch.Proofs.Query.Raw
import DocSearch.Proofs.Query.Refusal

/-!
# The shape of compiled queries

What compiling gives is well formed: no list in a body that compiling made is empty, every value in
a clause is a string, a number or a boolean, and groups and negations occur only for the two kinds
of filters that need them. Options that were read have a tolerance that is a number, and a window
of at least one hit.
-/
namespace DocSearch

/-! ## Clauses that compiling makes -/

namespace Clause

/-- The clauses of options with this tolerance. -/
inductive IsBuilt (fuzziness : Binary64) : Clause → Prop
  | term (field : String) {v : Json} (scalar : v.isScalar = true) :
      IsBuilt fuzziness (.term field v)
  | terms (field : String) {vs : List Json} (nonempty : vs ≠ [])
      (scalars : ∀ v ∈ vs, v.isScalar = true) : IsBuilt fuzziness (.terms field vs)
  | range (field : String) (bounds : Json.Members) : IsBuilt fuzziness (.range field bounds)
  | pair (field : String) {v : Json} (scalar : v.isScalar = true) :
      IsBuilt fuzziness (.anyOf [.exactText field v, .fuzzyText field v fuzziness])
  | exclusion (field : String) {vs : List Json} (nonempty : vs ≠ [])
      (scalars : ∀ v ∈ vs, v.isScalar = true) :
      IsBuilt fuzziness (.anyOf (vs.map fun v => .negated (.exactText field v)))
  | anywhere {v : Json} (scalar : v.isScalar = true) : IsBuilt fuzziness (.anywhere v)

/-- A group of an exact and a fuzzy text. -/
def isPair : Clause → Bool
  | .anyOf [.exactText _ _, .fuzzyText _ _ _] => true
  | _ => false

theorem isPair_exactOrFuzzy (field : String) (v : Json) (fuzziness : Binary64) :
    (exactOrFuzzy field v fuzziness).isPair = true := rfl

theorem isPair_exclusion (field : String) (vs : List Json) :
    (anyOf (vs.map (notExact field))).isPair = false := by
  cases vs <;> rfl

end Clause

namespace Compile

theorem isScalar_lowerCased (v : Json) : (lowerCased v).isScalar = v.isScalar := by
  cases v <;> rfl

theorem isScalar_of_mem_values {v w : Json} (accepted : (v.isScalar || v.isScalarSequence) = true)
    (member : w ∈ values v) : w.isScalar = true := by
  cases v with
  | array items =>
    simp only [Json.isScalar, Json.isScalarSequence, Bool.false_or, Bool.and_eq_true,
      List.all_eq_true] at accepted
    exact accepted.2 w member
  | _ =>
    obtain rfl := List.mem_singleton.mp member
    simpa [isScalar_lowerCased, Json.isScalarSequence] using accepted

theorem isBuilt_of_mem_block {kind : FilterKind} {fuzziness : Binary64} {field : String}
    {value : Json} (accepted : kind.accepts value = true) :
    ∀ c ∈ block kind fuzziness field value, c.IsBuilt fuzziness := by
  cases kind with
  | term =>
    rw [block, List.forall_mem_map]
    exact fun v member => .term field (isScalar_of_mem_values accepted member)
  | oneOf =>
    have listed : (value.isScalar || value.isScalarSequence) = true := by
      rw [show value.isScalarSequence = true from accepted, Bool.or_true]
    rw [block, List.forall_mem_singleton]
    exact .terms field (values_ne_nil listed) fun v member => isScalar_of_mem_values listed member
  | range =>
    cases value with
    | object bounds =>
      rw [block, List.forall_mem_singleton]
      exact .range field bounds
    | _ => cases accepted
  | fuzzy =>
    rw [block, List.forall_mem_map]
    exact fun v member => .pair field (isScalar_of_mem_values accepted member)
  | exclude =>
    rw [block, List.forall_mem_singleton]
    exact .exclusion field (values_ne_nil accepted)
      fun v member => isScalar_of_mem_values accepted member
  | anywhere =>
    rw [block, List.forall_mem_map]
    exact fun v member => .anywhere (isScalar_of_mem_values accepted member)

theorem isBuilt_of_mem_branch {fuzziness : Binary64} {filters : List Filter}
    (accepted : filters.all Filter.isAccepted = true) (occurrence : Occurrence) :
    ∀ c ∈ branch fuzziness occurrence filters, c.IsBuilt fuzziness := by
  intro c member
  obtain ⟨f, chosen, member⟩ := List.mem_flatMap.mp member
  obtain ⟨m, field, member⟩ := List.mem_flatMap.mp member
  have fits := List.all_eq_true.mp accepted f (List.mem_filter.mp chosen).1
  exact isBuilt_of_mem_block (List.all_eq_true.mp fits m field) c member

/-- A pair for each text of these fields. -/
def pairs (fuzziness : Binary64) (fields : Json.Members) : List Clause :=
  fields.flatMap fun m =>
    (values m.2).map fun v => .anyOf [.exactText m.1 v, .fuzzyText m.1 v fuzziness]

/-- Only fuzzy filters become pairs, and they become nothing else. -/
theorem filter_isPair_blocks (fuzziness : Binary64) (f : Filter) :
    (blocks fuzziness f).filter Clause.isPair =
      if f.kind = .fuzzy then pairs fuzziness f.fields else [] := by
  have block_pairs : ∀ field value, (block f.kind fuzziness field value).filter Clause.isPair =
      if f.kind = .fuzzy then (values value).map (Clause.exactOrFuzzy field · fuzziness)
      else [] := by
    intro field value
    cases f.kind with
    | range => cases value <;> simp [block, Clause.isPair]
    | exclude => simp [block, Clause.isPair_exclusion]
    | fuzzy => simp [block, Clause.isPair_exactOrFuzzy]
    | _ => simp [block, Clause.isPair]
  rw [blocks, List.filter_flatMap]
  simp only [block_pairs]
  by_cases fuzzy : f.kind = .fuzzy
  · simp only [fuzzy, if_true]
    rfl
  · simp [fuzzy]

/-- The pairs of a branch are those of the fuzzy filter on it, in the order of its fields and their
values. -/
theorem filter_isPair_branch (fuzziness : Binary64) (occurrence : Occurrence)
    {filters : List Filter} {fuzzy : Branches}
    (mapped : (filters.filter fun f => f.kind = .fuzzy) = Filter.ofBranches .fuzzy fuzzy) :
    (branch fuzziness occurrence filters).filter Clause.isPair =
      pairs fuzziness ((fuzzy.get occurrence).getD []) := by
  have only : ∀ fs : List Filter, (fs.flatMap (blocks fuzziness)).filter Clause.isPair =
      (fs.filter fun f => f.kind = .fuzzy).flatMap fun f => pairs fuzziness f.fields := by
    intro fs
    induction fs with
    | nil => rfl
    | cons f fs ih =>
      rw [List.flatMap_cons, List.filter_append, ih, filter_isPair_blocks, List.filter_cons]
      by_cases kind : f.kind = .fuzzy <;> simp [kind]
  -- the choice of the kind first, so that the fuzzy filters are what is left
  rw [branch, only, List.filter_filter]
  simp only [Bool.and_comm (decide (Filter.kind _ = .fuzzy))]
  rw [← List.filter_filter, mapped]
  obtain ⟨must, should⟩ := fuzzy
  cases occurrence <;> cases must <;> cases should <;>
    simp [Filter.ofBranches, Branches.get, pairs]

end Compile

open Compile

/-! ## Filters that compiling makes -/

theorem Filter.filter_fuzzy_ofBranches (kind : FilterKind) (b : Branches) :
    ((ofBranches kind b).filter fun f => f.kind = .fuzzy) =
      if kind = .fuzzy then ofBranches kind b else [] := by
  obtain ⟨must, should⟩ := b
  by_cases fuzzy : kind = .fuzzy <;> cases must <;> cases should <;> simp [ofBranches, fuzzy]

namespace BoolFilter

/-- The clauses of a filter that may be absent. -/
def clauses : Option BoolFilter → Occurrence → List Clause
  | none, _ => []
  | some f, .must => f.must
  | some f, .should => f.should

/-- The key of a branch in a body. -/
def branchKey : Occurrence → String
  | .must => "must"
  | .should => "should"

/-- The filter of options with these fields, fuzzy filters and tolerance. -/
structure IsBuilt (slots : List Slot) (fuzzy : Branches) (fuzziness : Binary64)
    (filter : Option BoolFilter) : Prop where
  /-- A filter that is present has a clause. -/
  absent_iff : filter = none ↔ ∀ occurrence, clauses filter occurrence = []
  /-- No filter is left out that was given a field. -/
  unset_iff : filter = none ↔ slots = []
  /-- The branches in its form are those that have a clause. -/
  keys : ∀ f ∈ filter, ∃ members, f.toJson = .object [("bool", .object members)] ∧
    ∀ occurrence, branchKey occurrence ∈ Json.Members.keys members ↔
      clauses filter occurrence ≠ []
  built : ∀ occurrence, ∀ c ∈ clauses filter occurrence, c.IsBuilt fuzziness
  pairs : ∀ occurrence, (clauses filter occurrence).filter Clause.isPair =
    Compile.pairs fuzziness ((fuzzy.get occurrence).getD [])

theorem isEmpty_ofFilters_iff (fuzziness : Binary64) (filters : List Filter) :
    (ofFilters fuzziness filters).isEmpty = true ↔
      ∀ occurrence, branch fuzziness occurrence filters = [] := by
  rw [isEmpty, Bool.and_eq_true, List.isEmpty_iff, List.isEmpty_iff]
  constructor
  · rintro ⟨must, should⟩ (_ | _)
    · exact must
    · exact should
  · exact fun every => ⟨every .must, every .should⟩

/-- There is no clause exactly if there is no field. -/
theorem branches_eq_nil_iff (fuzziness : Binary64) {filters : List Filter}
    (accepted : filters.all Filter.isAccepted = true) :
    (∀ occurrence, branch fuzziness occurrence filters = []) ↔
      filters.flatMap Filter.slots = [] := by
  have each : ∀ f ∈ filters, blocks fuzziness f = [] ↔ f.slots = [] := by
    intro f member
    rw [blocks, Filter.slots, List.map_eq_nil_iff, List.flatMap_eq_nil_iff]
    constructor
    · intro empty
      refine List.eq_nil_iff_forall_not_mem.mpr fun m field => ?_
      have fits := List.all_eq_true.mp (List.all_eq_true.mp accepted f member) m field
      exact block_ne_nil fuzziness fits (empty m field)
    · rintro none
      simp [none]
  simp only [branch, List.flatMap_eq_nil_iff, List.mem_filter, decide_eq_true_eq, and_imp]
  constructor
  · exact fun empty f member => (each f member).mp (empty f.occurrence f member rfl)
  · exact fun empty _ f member _ => (each f member).mpr (empty f member)

theorem branchKey_mem_keys_iff (f : BoolFilter) (occurrence : Occurrence) :
    branchKey occurrence ∈ Json.Members.keys (QueryDocument.given f.parts) ↔
      clauses (some f) occurrence ≠ [] := by
  rw [← not_iff_not, ← Json.Members.find?_eq_none_iff]
  cases occurrence <;>
    simp [branchKey, parts, clauses, branchValue, QueryDocument.find?_given_cons,
      QueryDocument.find?_given_nil]

/-- A filter that is left out is one without clauses. -/
theorem clauses_of_filters (fuzziness : Binary64) (filters : List Filter)
    (occurrence : Occurrence) :
    clauses (if (ofFilters fuzziness filters).isEmpty then none
      else some (ofFilters fuzziness filters)) occurrence =
        branch fuzziness occurrence filters := by
  split
  next isEmpty => exact ((isEmpty_ofFilters_iff fuzziness filters).mp isEmpty occurrence).symm
  next => cases occurrence <;> rfl

theorem isBuilt_of_accepted {filters : List Filter}
    (accepted : filters.all Filter.isAccepted = true) (fuzziness : Binary64) {fuzzy : Branches}
    (mapped : (filters.filter fun f => f.kind = .fuzzy) = Filter.ofBranches .fuzzy fuzzy) :
    IsBuilt (filters.flatMap Filter.slots) fuzzy fuzziness
      (if (ofFilters fuzziness filters).isEmpty then none
        else some (ofFilters fuzziness filters)) := by
  constructor
  · simp [clauses_of_filters, isEmpty_ofFilters_iff]
  · simp [← branches_eq_nil_iff fuzziness accepted, isEmpty_ofFilters_iff]
  · rintro f present
    rw [Option.mem_def.mp present]
    exact ⟨_, f.toJson_eq, f.branchKey_mem_keys_iff⟩
  · intro occurrence
    rw [clauses_of_filters]
    exact isBuilt_of_mem_branch accepted occurrence
  · intro occurrence
    rw [clauses_of_filters]
    exact filter_isPair_branch fuzziness occurrence mapped

end BoolFilter

theorem SearchOptions.filter_fuzzy_filters (o : SearchOptions) :
    (o.filters.filter fun f => f.kind = .fuzzy) = Filter.ofBranches .fuzzy o.fuzzy := by
  simp [filters, FilterKind.all, branches, Filter.filter_fuzzy_ofBranches]

theorem AggregationOptions.filter_fuzzy_filters (o : AggregationOptions) :
    (o.filters.filter fun f => f.kind = .fuzzy) = Filter.ofBranches .fuzzy o.fuzzy := by
  simp [filters, Filter.filter_fuzzy_ofBranches]

/-! ## Bodies -/

namespace Json

/-- A field that contains exactly the text. -/
def exactMatch (field : String) (v : Json) : Json :=
  .object [("multi_match", .object
    [("query", v), ("fields", .array [.string field]), ("boost", .ofBinary64 (.ofNat 3))])]

/-- A field that contains a text within the tolerance. -/
def fuzzyMatch (field : String) (v tolerance : Json) : Json :=
  .object [("multi_match", .object
    [("query", v), ("fields", .array [.string field]), ("fuzziness", tolerance),
      ("boost", .ofBinary64 (.ofNat 1))])]

/-- One of some clauses. -/
def alternatives (clauses : List Json) : Json :=
  .object [("bool", .object
    [("should", .array clauses), ("minimum_should_match", .ofUInt64 1)])]

/-- A clause in a body, with tolerances that fit. -/
inductive IsClause (fits : Json → Prop) : Json → Prop
  | term (field : String) {v : Json} (scalar : v.isScalar = true) :
      IsClause fits (.object [("term", .object [(field, v)])])
  | terms (field : String) {vs : List Json} (nonempty : vs ≠ [])
      (scalars : ∀ v ∈ vs, v.isScalar = true) :
      IsClause fits (.object [("terms", .object [(field, .array vs)])])
  | range (field : String) (bounds : Members) :
      IsClause fits (.object [("range", .object [(field, .object bounds)])])
  | pair (field : String) {v tolerance : Json} (scalar : v.isScalar = true)
      (fit : fits tolerance) :
      IsClause fits (alternatives [exactMatch field v, fuzzyMatch field v tolerance])
  | exclusion (field : String) {vs : List Json} (nonempty : vs ≠ [])
      (scalars : ∀ v ∈ vs, v.isScalar = true) :
      IsClause fits (alternatives (vs.map fun v =>
        .object [("bool", .object [("must_not", .array [exactMatch field v])])]))
  | anywhere {v : Json} (scalar : v.isScalar = true) :
      IsClause fits (.object [("match", .object [("_all", .object [("query", v)])])])

/-- A filter in a body: one branch or both, and no branch without a clause. -/
inductive IsFilter (fits : Json → Prop) : Json → Prop
  | must {vs : List Json} (nonempty : vs ≠ []) (forms : ∀ v ∈ vs, v.IsClause fits) :
      IsFilter fits (.object [("bool", .object [("must", .array vs)])])
  | should {vs : List Json} (nonempty : vs ≠ []) (forms : ∀ v ∈ vs, v.IsClause fits) :
      IsFilter fits (.object [("bool", .object [("should", .array vs)])])
  | both {vs ws : List Json} (nonempty : vs ≠ []) (nonempty' : ws ≠ [])
      (forms : ∀ v ∈ vs, v.IsClause fits) (forms' : ∀ w ∈ ws, w.IsClause fits) :
      IsFilter fits (.object [("bool", .object [("must", .array vs), ("should", .array ws)])])

/-- The body of a search. -/
inductive IsSearchBody (fits : Json → Prop) : Json → Prop
  | mk {filter : Option Json} (sort : Option Json) (offset size : UInt64)
      (form : ∀ v ∈ filter, v.IsFilter fits) :
      IsSearchBody fits (.object (QueryDocument.given
        [("filter", filter), ("from", some (.ofUInt64 offset)), ("size", some (.ofUInt64 size)),
          ("sort", sort)]))

/-- The body of an aggregation. -/
inductive IsAggregationBody (fits : Json → Prop) : Json → Prop
  | mk (field : String) {filter : Option Json} (offset size : UInt64)
      (form : ∀ v ∈ filter, v.IsFilter fits) :
      IsAggregationBody fits (.object
        [("from", .ofUInt64 offset), ("size", .ofUInt64 size),
          ("aggs", bucketsWithin field filter)])

/-- A number that is not negative. -/
def IsTolerance (v : Json) : Prop := ∃ x : Finite64, v = .number (.double x) ∧ x.negative = false

/-- The body asks for a page of this size: at least one hit, and none of those on the pages before
it, unless there are more of them than a number of 64 bits can tell. -/
structure HasWindow (body : Json) (page size : UInt64) : Prop where
  first : 0 < page
  nonempty : 0 < size
  limit : body.member? "size" = some (.ofUInt64 size)
  offset : ∃ skipped : UInt64, body.member? "from" = some (.ofUInt64 skipped) ∧
    skipped.toNat = min ((page.toNat - 1) * size.toNat) 0xffffffffffffffff

end Json

section
variable {fits : Json → Prop} {fuzziness : Binary64}

theorem Clause.IsBuilt.isClause {c : Clause} (built : c.IsBuilt fuzziness)
    (fit : fits (.ofBinary64 fuzziness)) : c.toJson.IsClause fits := by
  cases built with
  | term field scalar => exact .term field scalar
  | terms field nonempty scalars => exact .terms field nonempty scalars
  | range field bounds => exact .range field bounds
  | pair field scalar => exact .pair field scalar fit
  | exclusion field nonempty scalars =>
    rw [toJson, listToJson_eq_map, List.map_map]
    exact .exclusion field nonempty scalars
  | anywhere scalar => exact .anywhere scalar

theorem BoolFilter.IsBuilt.isFilter {slots : List Slot} {fuzzy : Branches}
    {filter : Option BoolFilter} (built : IsBuilt slots fuzzy fuzziness filter)
    (fit : fits (.ofBinary64 fuzziness)) :
    ∀ v ∈ filter.map BoolFilter.toJson, v.IsFilter fits := by
  rintro v present
  obtain ⟨f, rfl, rfl⟩ := Option.map_eq_some_iff.mp present
  have forms : ∀ occurrence, ∀ v ∈ (clauses (some f) occurrence).map Clause.toJson,
      v.IsClause fits := by
    intro occurrence
    rw [List.forall_mem_map]
    exact fun c member => (built.built occurrence c member).isClause fit
  have some_clause : ¬ ∀ occurrence, clauses (some f) occurrence = [] :=
    fun none => absurd (built.absent_iff.mpr none) (Option.some_ne_none f)
  obtain ⟨must, should⟩ := f
  have musts := forms .must
  have shoulds := forms .should
  simp only [clauses, ← Clause.listToJson_eq_map] at musts shoulds
  match must, should with
  | [], [] => exact absurd (fun occurrence => by cases occurrence <;> rfl) some_clause
  | _ :: _, [] => exact .must (List.cons_ne_nil _ _) musts
  | [], _ :: _ => exact .should (List.cons_ne_nil _ _) shoulds
  | _ :: _, _ :: _ => exact .both (List.cons_ne_nil _ _) (List.cons_ne_nil _ _) musts shoulds

variable {q : QueryDocument}

theorem SearchOptions.isSearchBody_toJson {o : SearchOptions} (compiled : o.compile = .ok q)
    (fit : fits (.ofBinary64 o.fuzziness)) : q.toJson.IsSearchBody fits := by
  obtain ⟨accepted, rfl⟩ := (o.compile_eq_ok_iff q).mp compiled
  rw [QueryDocument.toJson_eq]
  have built := BoolFilter.isBuilt_of_accepted accepted o.fuzziness o.filter_fuzzy_filters
  exact .mk o.sort _ o.pageSize (built.isFilter fit)

theorem AggregationOptions.isAggregationBody_toJson {o : AggregationOptions}
    (compiled : o.compile = .ok q) (fit : fits (.ofBinary64 o.fuzziness)) :
    q.toJson.IsAggregationBody fits := by
  obtain ⟨accepted, field, -, -, rfl⟩ := (o.compile_eq_ok_iff q).mp compiled
  rw [QueryDocument.toJson_eq, QueryDocument.parts, Option.map_some,
    GroupAggregation.toJson_eq_bucketsWithin]
  have built := BoolFilter.isBuilt_of_accepted accepted o.fuzziness o.filter_fuzzy_filters
  exact .mk field _ o.pageSize (built.isFilter fit)

end

theorem QueryDocument.hasWindow_toJson {q : QueryDocument} {page size : UInt64}
    (offset : q.offset = pageOffset page size) (limit : q.size = size) (first : 0 < page)
    (nonempty : 0 < size) : q.toJson.HasWindow page size := by
  obtain ⟨-, skipped, shown, -⟩ := q.member?_toJson
  refine ⟨first, nonempty, by rw [shown, limit], q.offset, skipped, ?_⟩
  rw [offset, toNat_pageOffset]
  rfl

open RawOptions

namespace RawOptions

theorem isTolerance_of_read {raw : Json.Members} {x : Binary64}
    (read : ∃ f, optional nonnegative "fuzziness" raw = .ok f ∧ x = f.getD defaultFuzziness) :
    (Json.ofBinary64 x).IsTolerance := by
  obtain ⟨f, read, rfl⟩ := read
  cases f with
  | none => exact ⟨.zero false, rfl, rfl⟩
  | some x =>
    obtain ⟨y, rfl, positive⟩ := finite_of_optional_nonnegative read x rfl
    exact ⟨y, rfl, positive⟩

theorem pos_of_read {key : String} {raw : Json.Members} {n default : UInt64}
    (read : ∃ m, optional positive key raw = .ok m ∧ n = m.getD default)
    (pos : 0 < default) : 0 < n := by
  obtain ⟨m, read, rfl⟩ := read
  cases m with
  | none => exact pos
  | some n => exact pos_of_optional_positive read n rfl

end RawOptions

/-- Compiled queries are well formed. The filter of a search, and the filter on the buckets of an
aggregation, is left out exactly if it would have no clause, that is if no field is given; it has
the branches that have clauses and no others; its clauses are made of scalars, groups of negations
that are not empty, and pairs of an exact and a fuzzy text with the tolerance of the options, one
pair for each value of the fuzzy filters and in their order. Every list in the body that compiling
made has an item. If the options were read from an object, every tolerance in the body is a number
that is not negative, the window has at least one hit, and an order is not one that counts as not
given. -/
theorem compiled_queries_are_well_formed :
    (∀ (o : SearchOptions) (q : QueryDocument), o.compile = .ok q →
      BoolFilter.IsBuilt o.slots o.fuzzy o.fuzziness q.filter ∧
      q.toJson.IsSearchBody (· = .ofBinary64 o.fuzziness)) ∧
    (∀ (o : AggregationOptions) (q : QueryDocument), o.compile = .ok q →
      (∃ a, q.aggregation = some a ∧
        BoolFilter.IsBuilt o.slots o.fuzzy o.fuzziness a.filter) ∧
      q.toJson.IsAggregationBody (· = .ofBinary64 o.fuzziness)) ∧
    (∀ (raw : Json.Members) (o : SearchOptions) (q : QueryDocument),
      SearchOptions.ofRaw raw = .ok o → o.compile = .ok q →
      q.toJson.IsSearchBody Json.IsTolerance ∧ q.toJson.HasWindow o.page o.pageSize ∧
      ∀ v, q.toJson.member? "sort" = some v → isFalsy v = false) ∧
    (∀ (raw : Json.Members) (o : AggregationOptions) (q : QueryDocument),
      AggregationOptions.ofRaw raw = .ok o → o.compile = .ok q →
      q.toJson.IsAggregationBody Json.IsTolerance ∧ q.toJson.HasWindow o.page o.pageSize) := by
  refine ⟨fun o q compiled => ⟨?_, ?_⟩, fun o q compiled => ⟨?_, ?_⟩,
    fun raw o q read compiled => ?_, fun raw o q read compiled => ?_⟩
  · obtain ⟨accepted, rfl⟩ := (o.compile_eq_ok_iff q).mp compiled
    rw [o.slots_eq]
    exact BoolFilter.isBuilt_of_accepted accepted o.fuzziness o.filter_fuzzy_filters
  · exact SearchOptions.isSearchBody_toJson compiled rfl
  · obtain ⟨accepted, field, -, -, rfl⟩ := (o.compile_eq_ok_iff q).mp compiled
    rw [o.slots_eq]
    exact ⟨_, rfl, BoolFilter.isBuilt_of_accepted accepted o.fuzziness o.filter_fuzzy_filters⟩
  · exact AggregationOptions.isAggregationBody_toJson compiled rfl
  · obtain ⟨-, fuzziness, sort, pageSize, page⟩ := (SearchOptions.ofRaw_eq_ok_iff raw o).mp read
    have body := SearchOptions.isSearchBody_toJson compiled (isTolerance_of_read fuzziness)
    obtain ⟨-, rfl⟩ := (o.compile_eq_ok_iff q).mp compiled
    refine ⟨body, ?_, fun v ordered => ?_⟩
    · exact QueryDocument.hasWindow_toJson rfl rfl (pos_of_read page (by decide))
        (pos_of_read pageSize (by decide))
    · rw [(QueryDocument.member?_toJson _).2.2.2.1, sort] at ordered
      exact (given?_eq_some_iff.mp ordered).2
  · obtain ⟨-, -, -, -, fuzziness, pageSize, page⟩ :=
      (AggregationOptions.ofRaw_eq_ok_iff raw o).mp read
    have body := AggregationOptions.isAggregationBody_toJson compiled
      (isTolerance_of_read fuzziness)
    obtain ⟨-, field, -, -, rfl⟩ := (o.compile_eq_ok_iff q).mp compiled
    exact ⟨body, QueryDocument.hasWindow_toJson rfl rfl (pos_of_read page (by decide))
      (pos_of_read pageSize (by decide))⟩

/-- Two fields with texts of their own, and names that are ruled out. -/
def lionsButScar : Json.Members :=
  [("mustFuzzyMatch", .object [("species", .string "Lion"),
      ("name", .array [.string "Simba", .bool true])]),
    ("mustNotMatch", .object [("name", .array [.string "Scar"])]),
    ("fuzziness", .ofUInt64 2), ("pageSize", .string "10"), ("page", .ofUInt64 3)]

/-- A pair for each text, and a window behind the hits of two pages. -/
theorem lionsButScar_well_formed :
    let two := Binary64.ofInt 2
    ∃ o q, SearchOptions.ofRaw lionsButScar = .ok o ∧ o.compile = .ok q ∧
      (BoolFilter.clauses q.filter .must).filter Clause.isPair =
        [Clause.exactOrFuzzy "species" (.string "lion") two,
          Clause.exactOrFuzzy "name" (.string "Simba") two,
          Clause.exactOrFuzzy "name" (.bool true) two] ∧
      q.toJson.IsSearchBody Json.IsTolerance ∧ q.toJson.HasWindow 3 10 := by
  intro two
  let o : SearchOptions :=
    { fuzzy := { must := some [("species", .string "Lion"),
        ("name", .array [.string "Simba", .bool true])] }
      exclude := { must := some [("name", .array [.string "Scar"])] }
      fuzziness := two, pageSize := 10, page := 3 }
  have read : SearchOptions.ofRaw lionsButScar = .ok o := by decide
  have compiled := (o.compile_eq_ok_iff _).mpr ⟨by decide, rfl⟩
  obtain ⟨searches, -, readings, -⟩ := compiled_queries_are_well_formed
  obtain ⟨built, -⟩ := searches o _ compiled
  obtain ⟨body, window, -⟩ := readings lionsButScar o _ read compiled
  exact ⟨o, _, read, compiled, built.pairs .must, body, window⟩

end DocSearch
