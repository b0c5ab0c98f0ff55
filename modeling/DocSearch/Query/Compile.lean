import DocSearch.Number.Word
import DocSearch.Query.Document
import DocSearch.Query.Error
import DocSearch.Query.Options
import DocSearch.Text.Case.Lower

/-!
# From options to a query document

Every field of every filter becomes clauses of its kind, in a fixed order of kinds and in the
order of the fields; the first value of the wrong shape is reported. No branch is present without
a clause, so a filter that is present restricts something.
-/
namespace DocSearch

namespace Compile

/-- Refuses what is neither a string nor a number nor a boolean. -/
def checkScalar : Json → Except ClauseFault Unit
  | .string _ | .number _ | .bool _ => .ok ()
  | .null => .error .nullValue
  | v => .error (.notScalar v)

/-- Refuses an empty sequence, and one with an item that is no scalar. -/
def checkItems : List Json → Except ClauseFault Unit
  | [] => .error .emptySequence
  | items => items.forM checkScalar

/-- A string in lower case; other values as they are. -/
def lowerCased : Json → Json
  | .string s => .string (Case.lower s)
  | v => v

/-- The values of a field whose text is matched: the items of a sequence as they are, or one
scalar in lower case. -/
def textValues : Json → Except ClauseFault (List Json)
  | .array items => do
    checkItems items
    return items
  | v => do
    checkScalar v
    return [lowerCased v]

/-- The clauses of one field of a filter. -/
def fieldClauses (kind : FilterKind) (fuzziness : Binary64) (field : String) (value : Json) :
    Except ClauseFault (List Clause) :=
  match kind with
  | .term => return (← textValues value).map (.term field)
  | .oneOf =>
    match value with
    | .array items => do
      checkItems items
      return [.terms field items]
    | v => .error (.notSequence v)
  | .range =>
    match value with
    | .object bounds => .ok [.range field bounds]
    | v => .error (.notBounds v)
  | .fuzzy => return (← textValues value).map (Clause.exactOrFuzzy field · fuzziness)
  | .exclude => return [.anyOf ((← textValues value).map (Clause.notExact field))]
  | .anywhere => return (← textValues value).map .anywhere

/-- The clauses of a filter, field by field. -/
def filterClauses (fuzziness : Binary64) (filter : Filter) : Except QueryError (List Clause) :=
  go filter.fields
where
  /-- The clauses of the fields from one on. -/
  go : Json.Members → Except QueryError (List Clause)
    | [] => .ok []
    | (field, value) :: rest =>
      match fieldClauses filter.kind fuzziness field value with
      | .error fault => .error (.malformedClause filter.key field fault)
      | .ok here => do
        let later ← go rest
        return here ++ later

end Compile

namespace BoolFilter

/-- Puts clauses at the end of a branch. -/
def extend (f : BoolFilter) (occurrence : Occurrence) (clauses : List Clause) : BoolFilter :=
  match occurrence with
  | .must => { f with must := f.must ++ clauses }
  | .should => { f with should := f.should ++ clauses }

/-- The clauses of all filters, added to those of `f`. -/
def compileFrom (fuzziness : Binary64) (f : BoolFilter) : List Filter → Except QueryError BoolFilter
  | [] => .ok f
  | filter :: rest => do
    let clauses ← Compile.filterClauses fuzziness filter
    compileFrom fuzziness (f.extend filter.occurrence clauses) rest

/-- The filter made of all clauses, or none if there are none. -/
def compile (fuzziness : Binary64) (filters : List Filter) :
    Except QueryError (Option BoolFilter) := do
  let f ← compileFrom fuzziness {} filters
  return if f.isEmpty then none else some f

end BoolFilter

/-- The number of hits before a page, at most the greatest number of 64 bits. Page 0 starts where
page 1 does. -/
def pageOffset (page size : UInt64) : UInt64 := Word.times (Word.minus page 1) size

theorem toNat_pageOffset (page size : UInt64) :
    (pageOffset page size).toNat = min ((page.toNat - 1) * size.toNat) (UInt64.size - 1) := by
  rw [pageOffset, Word.toNat_times, Word.toNat_minus, UInt64.toNat_one]

/-- The query document of search options. -/
def SearchOptions.compile (o : SearchOptions) : Except QueryError QueryDocument := do
  let filter ← BoolFilter.compile o.fuzziness o.filters
  return { filter, offset := pageOffset o.page o.pageSize, size := o.pageSize, sort := o.sort }

/-- The query document of aggregation options. The filters restrict what is counted in the
buckets; the hit list is not filtered. -/
def AggregationOptions.compile (o : AggregationOptions) : Except QueryError QueryDocument :=
  match o.groupBy.filter (!·.isEmpty) with
  | none => .error .missingGroupBy
  | some field => do
    let filter ← BoolFilter.compile o.fuzziness o.filters
    return {
      offset := pageOffset o.page o.pageSize
      size := o.pageSize
      aggregation := some { field, filter } }

end DocSearch
