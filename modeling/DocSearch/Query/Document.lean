import DocSearch.Query.Clause

/-!
# Query documents

What a search sends: a filter over the hit list, a window into it, an order, and perhaps a
grouping into buckets. An absent part leaves no member behind, so the parts can be read off the
body.
-/
namespace DocSearch

/-- Clauses that all have to hold, and clauses of which one has to. -/
structure BoolFilter where
  must : List Clause := []
  should : List Clause := []
  deriving Repr, Inhabited

namespace BoolFilter

def isEmpty (f : BoolFilter) : Bool := f.must.isEmpty && f.should.isEmpty

/-- A branch of the filter, left out if it has no clause. -/
def branchMember (key : String) (clauses : List Clause) : Json.Members :=
  if clauses.isEmpty then [] else [(key, .array (Clause.listToJson clauses))]

def toJson (f : BoolFilter) : Json :=
  Clause.single "bool"
    (.object (branchMember "must" f.must ++ branchMember "should" f.should))

end BoolFilter

/-- A grouping of documents by the values of a field, all of them or those a filter leaves. -/
structure GroupAggregation where
  field : String
  filter : Option BoolFilter := none
  deriving Repr, Inhabited

namespace GroupAggregation

/-- The name under which the buckets come back. -/
def bucketsName : String := "group_by"

/-- The name around them if a filter applies. -/
def filteredName : String := "filtered"

/-- The size that asks for every bucket. -/
def allBuckets : UInt64 := 0

/-- The aggregation in the backend's query language. -/
def toJson (a : GroupAggregation) : Json :=
  let buckets := Clause.single bucketsName
    (Clause.single "terms" (.object [("field", .string a.field), ("size", .ofUInt64 allBuckets)]))
  match a.filter with
  | none => buckets
  | some f => Clause.single filteredName (.object [("filter", f.toJson), ("aggs", buckets)])

end GroupAggregation

/-- A query: what to keep, which part of it to return, in what order, and how to group. -/
structure QueryDocument where
  filter : Option BoolFilter := none
  offset : UInt64
  size : UInt64
  sort : Option Json := none
  aggregation : Option GroupAggregation := none
  deriving Repr, Inhabited

namespace QueryDocument

/-- A member that is left out if it has no value. -/
def optionalMember (key : String) (value : Option Json) : Json.Members :=
  match value with
  | some v => [(key, v)]
  | none => []

/-- The body of the request. -/
def toJson (q : QueryDocument) : Json :=
  .object
    (optionalMember "filter" (q.filter.map BoolFilter.toJson)
      ++ [("from", .ofUInt64 q.offset), ("size", .ofUInt64 q.size)]
      ++ optionalMember "sort" q.sort
      ++ optionalMember "aggs" (q.aggregation.map GroupAggregation.toJson))

end QueryDocument
end DocSearch
