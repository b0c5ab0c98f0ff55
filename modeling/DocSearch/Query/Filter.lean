import DocSearch.Json.Value

/-!
# Filters

A filter is a mapping from field names to values, of a kind that says how a value is matched, and
on a branch that says whether all of its clauses have to hold or one of them.
-/
namespace DocSearch

/-- How the values of a filter are matched. -/
inductive FilterKind where
  /-- The field has the value, in lower case. -/
  | term
  /-- The field has one of the values. -/
  | oneOf
  /-- The field lies within bounds. -/
  | range
  /-- The field contains the text or one close to it. -/
  | fuzzy
  /-- The field does not contain the text. -/
  | exclude
  /-- Some field contains the text. -/
  | anywhere
  deriving DecidableEq, Repr

/-- Whether all clauses of a branch have to hold, or one. -/
inductive Occurrence where
  | must
  | should
  deriving DecidableEq, Repr

namespace FilterKind

/-- All kinds, in the order in which they are compiled. -/
def all : List FilterKind := [.term, .oneOf, .range, .fuzzy, .exclude, .anywhere]

/-- The option that holds the filters of a kind on a branch. -/
def key : FilterKind → Occurrence → String
  | .term, .must => "mustMatch"
  | .term, .should => "shouldMatch"
  | .oneOf, .must => "mustArray"
  | .oneOf, .should => "shouldArray"
  | .range, .must => "mustRange"
  | .range, .should => "shouldRange"
  | .fuzzy, .must => "mustFuzzyMatch"
  | .fuzzy, .should => "shouldFuzzyMatch"
  | .exclude, .must => "mustNotMatch"
  | .exclude, .should => "shouldNotMatch"
  | .anywhere, .must => "mustAllMatch"
  | .anywhere, .should => "shouldAllMatch"

end FilterKind

/-- The filters of one kind. An absent branch differs from an empty one. -/
structure Branches where
  must : Option Json.Members := none
  should : Option Json.Members := none
  deriving DecidableEq, Repr, Inhabited

namespace Branches

def get (b : Branches) : Occurrence → Option Json.Members
  | .must => b.must
  | .should => b.should

/-- Sets the value of a field, in a branch that may not be there yet. -/
def insert (b : Branches) (occurrence : Occurrence) (field : String) (value : Json) : Branches :=
  match occurrence with
  | .must => { b with must := some (Json.Members.insert field value (b.must.getD [])) }
  | .should => { b with should := some (Json.Members.insert field value (b.should.getD [])) }

end Branches

/-- A filter in use: a kind, a branch, and the fields with their values. -/
structure Filter where
  kind : FilterKind
  occurrence : Occurrence
  fields : Json.Members
  deriving DecidableEq, Repr

namespace Filter

def key (f : Filter) : String := f.kind.key f.occurrence

/-- The filters of a kind, `must` first. -/
def ofBranches (kind : FilterKind) (b : Branches) : List Filter :=
  (b.must.map (⟨kind, .must, ·⟩)).toList ++ (b.should.map (⟨kind, .should, ·⟩)).toList

end Filter
end DocSearch
