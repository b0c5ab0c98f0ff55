import DocSearch.Proofs.Query.Refusal

/-!
# Where the tolerance goes

The tolerance of search options stands in the clauses of fuzzy filters and nowhere else. With
another one, the options compile to the same document with the tolerances replaced, or are refused
with the same error.
-/
namespace DocSearch

variable (replace : Binary64 → Binary64)

namespace Clause

mutual

/-- The clause with its tolerances replaced. -/
def mapTolerance : Clause → Clause
  | .fuzzyText field value fuzziness => .fuzzyText field value (replace fuzziness)
  | .anyOf clauses => .anyOf (listMapTolerance clauses)
  | .negated c => .negated c.mapTolerance
  | .term field value => .term field value
  | .terms field values => .terms field values
  | .range field bounds => .range field bounds
  | .exactText field value => .exactText field value
  | .anywhere value => .anywhere value

def listMapTolerance : List Clause → List Clause
  | [] => []
  | c :: rest => c.mapTolerance :: listMapTolerance rest

end

theorem listMapTolerance_eq_map (clauses : List Clause) :
    listMapTolerance replace clauses = clauses.map (mapTolerance replace) := by
  induction clauses with
  | nil => rfl
  | cons c rest ih => rw [listMapTolerance, ih, List.map_cons]

end Clause

open Clause

def BoolFilter.mapTolerance (f : BoolFilter) : BoolFilter :=
  { must := f.must.map (Clause.mapTolerance replace)
    should := f.should.map (Clause.mapTolerance replace) }

def GroupAggregation.mapTolerance (a : GroupAggregation) : GroupAggregation :=
  { a with filter := a.filter.map (BoolFilter.mapTolerance replace) }

def QueryDocument.mapTolerance (q : QueryDocument) : QueryDocument :=
  { q with
    filter := q.filter.map (BoolFilter.mapTolerance replace)
    aggregation := q.aggregation.map (GroupAggregation.mapTolerance replace) }

namespace Compile

theorem block_mapTolerance (kind : FilterKind) (fuzziness : Binary64) (field : String)
    (value : Json) :
    block kind (replace fuzziness) field value =
      (block kind fuzziness field value).map (Clause.mapTolerance replace) := by
  cases kind with
  | range => cases value <;> simp [block, Clause.mapTolerance]
  | exclude =>
    simp [block, Clause.mapTolerance, listMapTolerance_eq_map, notExact, Function.comp_def]
  | fuzzy =>
    simp [block, Clause.mapTolerance, listMapTolerance, exactOrFuzzy, Function.comp_def]
  | _ => simp [block, Clause.mapTolerance, Function.comp_def]

theorem branch_mapTolerance (fuzziness : Binary64) (occurrence : Occurrence)
    (filters : List Filter) :
    branch (replace fuzziness) occurrence filters =
      (branch fuzziness occurrence filters).map (Clause.mapTolerance replace) := by
  have each : blocks (replace fuzziness) = fun f =>
      (blocks fuzziness f).map (Clause.mapTolerance replace) := by
    funext f
    simp only [blocks, block_mapTolerance, List.map_flatMap]
  rw [branch, branch, each, List.map_flatMap]

end Compile

open Compile

theorem BoolFilter.ofFilters_mapTolerance (fuzziness : Binary64) (filters : List Filter) :
    ofFilters (replace fuzziness) filters = (ofFilters fuzziness filters).mapTolerance replace := by
  simp only [ofFilters, branch_mapTolerance, mapTolerance]

theorem BoolFilter.isEmpty_mapTolerance (f : BoolFilter) :
    (f.mapTolerance replace).isEmpty = f.isEmpty := by
  simp [isEmpty, mapTolerance]

/-- Options with another tolerance have the same document with the tolerance replaced in it, or
the same error. -/
theorem SearchOptions.compile_mapTolerance (o : SearchOptions) :
    ({ o with fuzziness := replace o.fuzziness } : SearchOptions).compile =
      o.compile.map (QueryDocument.mapTolerance replace) := by
  cases compiled : o.compile with
  | error e => exact ((govern_compile _).2 e).mpr ((o.govern_compile.2 e).mp compiled)
  | ok q =>
    obtain ⟨accepted, rfl⟩ := (o.compile_eq_ok_iff q).mp compiled
    refine (compile_eq_ok_iff _ _).mpr ⟨accepted, ?_⟩
    have filters : ({ o with fuzziness := replace o.fuzziness } : SearchOptions).filters =
        o.filters := rfl
    simp only [filters, BoolFilter.ofFilters_mapTolerance, BoolFilter.isEmpty_mapTolerance,
      QueryDocument.mapTolerance, Option.map_none]
    split <;> rfl

end DocSearch
