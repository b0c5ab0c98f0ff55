import DocSearch.Query.Filter

/-!
# Options

The records that a search and an aggregation are described by. Every field has a default, so a
record is complete; building one up step by step replaces fields and sets single filters.
-/
namespace DocSearch

def defaultPageSize : UInt64 := 25

def defaultPage : UInt64 := 1

def defaultFuzziness : Binary64 := .finite (.zero false)

/-- What to search for, and which part of the hits to return. -/
structure SearchOptions where
  term : Branches := {}
  oneOf : Branches := {}
  range : Branches := {}
  fuzzy : Branches := {}
  exclude : Branches := {}
  anywhere : Branches := {}
  fuzziness : Binary64 := defaultFuzziness
  sort : Option Json := none
  pageSize : UInt64 := defaultPageSize
  page : UInt64 := defaultPage
  deriving DecidableEq, Repr, Inhabited

namespace SearchOptions

def branches (o : SearchOptions) : FilterKind → Branches
  | .term => o.term
  | .oneOf => o.oneOf
  | .range => o.range
  | .fuzzy => o.fuzzy
  | .exclude => o.exclude
  | .anywhere => o.anywhere

/-- Sets the value of one field of one filter. -/
def withFilter (o : SearchOptions) (kind : FilterKind) (occurrence : Occurrence)
    (field : String) (value : Json) : SearchOptions :=
  let updated := (o.branches kind).insert occurrence field value
  match kind with
  | .term => { o with term := updated }
  | .oneOf => { o with oneOf := updated }
  | .range => { o with range := updated }
  | .fuzzy => { o with fuzzy := updated }
  | .exclude => { o with exclude := updated }
  | .anywhere => { o with anywhere := updated }

/-- The filters in use, in the order in which they are compiled. -/
def filters (o : SearchOptions) : List Filter :=
  FilterKind.all.flatMap fun kind => Filter.ofBranches kind (o.branches kind)

end SearchOptions

/-- What to group by, over which documents, and which part of the hits to return with it. -/
structure AggregationOptions where
  term : Branches := {}
  range : Branches := {}
  fuzzy : Branches := {}
  fuzziness : Binary64 := defaultFuzziness
  groupBy : Option String := none
  pageSize : UInt64 := defaultPageSize
  page : UInt64 := defaultPage
  deriving DecidableEq, Repr, Inhabited

namespace AggregationOptions

/-- The filters in use, in the order in which they are compiled. -/
def filters (o : AggregationOptions) : List Filter :=
  Filter.ofBranches .term o.term ++ Filter.ofBranches .range o.range
    ++ Filter.ofBranches .fuzzy o.fuzzy

end AggregationOptions

/-- One step of building search options. -/
inductive SearchOptions.Step where
  | filter (kind : FilterKind) (occurrence : Occurrence) (field : String) (value : Json)
  | fuzziness (value : Binary64)
  | sort (value : Json)
  | pageSize (value : UInt64)
  | page (value : UInt64)
  deriving DecidableEq, Repr

namespace SearchOptions

def apply (o : SearchOptions) : Step → SearchOptions
  | .filter kind occurrence field value => o.withFilter kind occurrence field value
  | .fuzziness value => { o with fuzziness := value }
  | .sort value => { o with sort := some value }
  | .pageSize value => { o with pageSize := value }
  | .page value => { o with page := value }

/-- The options built by the steps, starting from the defaults. -/
def build (steps : List Step) : SearchOptions := steps.foldl apply {}

end SearchOptions
end DocSearch
