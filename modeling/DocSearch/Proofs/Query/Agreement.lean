import DocSearch.Proofs.Query.Body
import DocSearch.Proofs.Query.Grammar
import DocSearch.Proofs.Query.Raw

/-!
# Searches and aggregations agree on filters

One object read as aggregation options, and read as search options without the options that only
searches have, is accepted in both readings or refused with the same error. If it is accepted, what
restricts the hits of the search restricts the buckets of the aggregation, and the window is the
same.
-/
namespace DocSearch

/-! ## The options that both readings share -/

namespace RawOptions

/-- The options that searches have and aggregations have not. -/
def ofSearchesOnly : List String :=
  ["sort", "mustArray", "shouldArray", "mustNotMatch", "shouldNotMatch", "mustAllMatch",
    "shouldAllMatch"]

/-- The object without these. -/
def shared (raw : Json.Members) : Json.Members :=
  raw.filter fun m => !ofSearchesOnly.contains m.1

section
variable {key : String} (raw : Json.Members)

theorem given?_shared_of_not_mem (kept : key ∉ ofSearchesOnly) :
    given? key (shared raw) = given? key raw := by
  rw [given?, shared, Json.Members.find?_filter fun key => !ofSearchesOnly.contains key,
    if_pos (by simpa using kept), given?]

theorem given?_shared_of_mem (dropped : key ∈ ofSearchesOnly) : given? key (shared raw) = none := by
  rw [given?, shared, Json.Members.find?_filter fun key => !ofSearchesOnly.contains key,
    if_neg (by simpa using dropped)]
  rfl

theorem readBranches_shared_of_not_mem (mustKey shouldKey : String)
    (must : mustKey ∉ ofSearchesOnly) (should : shouldKey ∉ ofSearchesOnly) :
    readBranches mustKey shouldKey (shared raw) = readBranches mustKey shouldKey raw :=
  readBranches_congr (given?_shared_of_not_mem raw must) (given?_shared_of_not_mem raw should)

theorem readBranches_shared_of_mem (mustKey shouldKey : String)
    (must : mustKey ∈ ofSearchesOnly) (should : shouldKey ∈ ofSearchesOnly) :
    readBranches mustKey shouldKey (shared raw) = .ok {} :=
  readBranches_of_not_given (given?_shared_of_mem raw must) (given?_shared_of_mem raw should)

end

end RawOptions

open RawOptions

/-- The search for the documents that are counted in the buckets. -/
def AggregationOptions.toSearch (o : AggregationOptions) : SearchOptions :=
  { term := o.term, range := o.range, fuzzy := o.fuzzy, fuzziness := o.fuzziness,
    pageSize := o.pageSize, page := o.page }

theorem AggregationOptions.filters_toSearch (o : AggregationOptions) :
    o.toSearch.filters = o.filters := by
  simp [SearchOptions.filters, FilterKind.all, SearchOptions.branches, toSearch, filters,
    Filter.ofBranches]

theorem SearchOptions.ofRaw_shared (raw : Json.Members) (groupBy : Option String)
    (grouped : optional fieldName "groupBy" raw = .ok groupBy) :
    SearchOptions.ofRaw (shared raw) =
      (AggregationOptions.ofRaw raw).map AggregationOptions.toSearch := by
  have fuzziness := optional_congr nonnegative
    (given?_shared_of_not_mem raw (by decide : "fuzziness" ∉ ofSearchesOnly))
  have pageSize := optional_congr positive
    (given?_shared_of_not_mem raw (by decide : "pageSize" ∉ ofSearchesOnly))
  have page := optional_congr positive
    (given?_shared_of_not_mem raw (by decide : "page" ∉ ofSearchesOnly))
  have unordered := given?_shared_of_mem raw (by decide : "sort" ∈ ofSearchesOnly)
  have kept := readBranches_shared_of_not_mem raw
  have dropped := readBranches_shared_of_mem raw
  rw [SearchOptions.ofRaw, AggregationOptions.ofRaw, grouped, fuzziness, pageSize, page, unordered,
    kept "mustMatch" "shouldMatch" (by decide) (by decide),
    kept "mustFuzzyMatch" "shouldFuzzyMatch" (by decide) (by decide),
    kept "mustRange" "shouldRange" (by decide) (by decide),
    dropped "mustNotMatch" "shouldNotMatch" (by decide) (by decide),
    dropped "mustAllMatch" "shouldAllMatch" (by decide) (by decide),
    dropped "mustArray" "shouldArray" (by decide) (by decide)]
  cases readBranches "mustMatch" "shouldMatch" raw with
  | error e => rfl
  | ok term =>
    cases readBranches "mustFuzzyMatch" "shouldFuzzyMatch" raw with
    | error e => rfl
    | ok fuzzy =>
      cases readBranches "mustRange" "shouldRange" raw with
      | error e => rfl
      | ok range =>
        cases optional nonnegative "fuzziness" raw with
        | error e => rfl
        | ok fuzziness =>
          cases optional positive "pageSize" raw with
          | error e => rfl
          | ok pageSize => cases optional positive "page" raw <;> rfl

/-- The window of a search, with its filter moved to a grouping by the field. -/
def QueryDocument.grouped (field : String) (q : QueryDocument) : QueryDocument :=
  { offset := q.offset, size := q.size, aggregation := some { field, filter := q.filter } }

theorem AggregationOptions.compile_eq_map (o : AggregationOptions) {field : String}
    (given : o.groupBy = some field) (nonempty : field ≠ "") :
    o.compile = o.toSearch.compile.map (QueryDocument.grouped field) := by
  have chosen : o.groupBy.filter (!·.isEmpty) = some field := by
    simpa [given] using nonempty
  have fuzziness : o.toSearch.fuzziness = o.fuzziness := rfl
  rw [compile, chosen, SearchOptions.compile, filters_toSearch, fuzziness]
  cases BoolFilter.compile o.fuzziness o.filters <;> rfl

/-- Read and compiled as an aggregation, an object gives what it gives as a search, with the filter
moved to the grouping. -/
theorem AggregationOptions.ofRaw_compile_eq_map (raw : Json.Members) {field : String}
    (given : Json.Members.find? "groupBy" raw = some (.string field)) (nonempty : field ≠ "") :
    AggregationOptions.ofRaw raw >>= AggregationOptions.compile =
      (SearchOptions.ofRaw (shared raw) >>= SearchOptions.compile).map
        (QueryDocument.grouped field) := by
  have grouped := fieldName_given given nonempty
  rw [SearchOptions.ofRaw_shared raw _ grouped]
  cases read : AggregationOptions.ofRaw raw with
  | error e => rfl
  | ok o =>
    have same := ((AggregationOptions.ofRaw_eq_ok_iff raw o).mp read).1
    rw [grouped] at same
    exact o.compile_eq_map (Except.ok.inj same).symm nonempty

theorem QueryDocument.toJson_grouped (field : String) (q : QueryDocument) :
    (q.grouped field).toJson = .object [("from", .ofUInt64 q.offset), ("size", .ofUInt64 q.size),
      ("aggs", bucketsWithin field (q.toJson.member? "filter"))] := by
  rw [q.member?_toJson.1]
  obtain ⟨filter, _, _, _, _⟩ := q
  cases filter <;> rfl

/-- An object that names a field to group by is good for an aggregation exactly if, without the
options of searches only, it is good for a search, and otherwise has the same error in both. The
aggregation has the window of the search, and its filter on the buckets: the form of that filter
stands around them, or they stand alone if there is none. Its own hits are neither filtered nor
sorted. -/
theorem searches_and_aggregations_agree (raw : Json.Members) (field : String)
    (given : Json.Members.find? "groupBy" raw = some (.string field)) (nonempty : field ≠ "") :
    let aggregation := AggregationOptions.ofRaw raw >>= AggregationOptions.compile
    let search := SearchOptions.ofRaw (shared raw) >>= SearchOptions.compile
    ((∃ q, aggregation = .ok q) ↔ ∃ r, search = .ok r) ∧
    (∀ e, aggregation = .error e ↔ search = .error e) ∧
    ∀ q r, aggregation = .ok q → search = .ok r →
      q.offset = r.offset ∧ q.size = r.size ∧ q.filter = none ∧ q.sort = none ∧
      q.aggregation = some { field, filter := r.filter } ∧
      q.toJson = .object [("from", .ofUInt64 r.offset), ("size", .ofUInt64 r.size),
        ("aggs", bucketsWithin field (r.toJson.member? "filter"))] := by
  intro aggregation search
  have same : aggregation = search.map (QueryDocument.grouped field) :=
    AggregationOptions.ofRaw_compile_eq_map raw given nonempty
  rw [same]
  refine ⟨?_, fun e => ?_, fun q r compiled compiled' => ?_⟩
  · cases search <;> simp [Except.map]
  · cases search <;> simp [Except.map]
  · rw [compiled'] at compiled
    cases compiled
    exact ⟨rfl, rfl, rfl, rfl, rfl, r.toJson_grouped field⟩

/-- An order and a list that is none, beside what both readings use. -/
def grownByRegion : Json.Members :=
  [("sort", .string "age"), ("mustArray", .ofUInt64 5),
    ("shouldRange", .object [("age", .object [("gte", .ofUInt64 3)])]),
    ("groupBy", .string "region"), ("page", .string " 2 ")]

/-- What an aggregation does not read does no harm to it. -/
theorem grownByRegion_agrees :
    let filter := Json.object [("bool", .object [("should", .array
      [.object [("range", .object [("age", .object [("gte", .ofUInt64 3)])])]])])]
    Json.Members.find? "groupBy" grownByRegion = some (.string "region") ∧ "region" ≠ "" ∧
    ∃ q r, AggregationOptions.ofRaw grownByRegion >>= AggregationOptions.compile = .ok q ∧
      SearchOptions.ofRaw (shared grownByRegion) >>= SearchOptions.compile = .ok r ∧
      r.toJson = .object [("filter", filter), ("from", .ofUInt64 25), ("size", .ofUInt64 25)] ∧
      q.toJson = .object [("from", .ofUInt64 25), ("size", .ofUInt64 25),
        ("aggs", bucketsWithin "region" (some filter))] := by
  intro filter
  obtain ⟨succeeds, -, each⟩ :=
    searches_and_aggregations_agree grownByRegion "region" rfl (by decide)
  let o : SearchOptions :=
    { range := { should := some [("age", .object [("gte", .ofUInt64 3)])] }, page := 2 }
  have read : SearchOptions.ofRaw (shared grownByRegion) = .ok o := by decide
  have search : SearchOptions.ofRaw (shared grownByRegion) >>= SearchOptions.compile = .ok _ :=
    (bind_eq_ok_iff _ _ _).mpr ⟨o, read, (o.compile_eq_ok_iff _).mpr ⟨by decide, rfl⟩⟩
  obtain ⟨q, aggregation⟩ := succeeds.mpr ⟨_, search⟩
  obtain ⟨-, -, -, -, -, body⟩ := each q _ aggregation search
  exact ⟨rfl, by decide, q, _, aggregation, search, by decide, body⟩

end DocSearch
