import DocSearch.Json.Text

/-!
# Usage errors

Options that cannot be used are refused before anything is sent. An error names the option, the
field if there is one, and what is wrong with the value; texts quote the value compactly.
-/
namespace DocSearch

/-- What is wrong with the value of an option. -/
inductive OptionFault where
  | notMapping (value : Json)
  | notPositive (value : Json)
  | notNonnegative (value : Json)
  | notFieldName (value : Json)
  deriving DecidableEq, Repr

/-- What is wrong with the value of a field. -/
inductive ClauseFault where
  | emptySequence
  | nullValue
  | notScalar (value : Json)
  | notSequence (value : Json)
  | notBounds (value : Json)
  deriving DecidableEq, Repr

/-- Why options were refused. -/
inductive QueryError where
  | invalidOption (key : String) (fault : OptionFault)
  | malformedClause (key : String) (field : String) (fault : ClauseFault)
  | missingGroupBy
  deriving DecidableEq, Repr

def OptionFault.reason : OptionFault → String
  | .notMapping v => "expected a mapping of field names to values, got " ++ v.compact
  | .notPositive v => "expected a positive integer, got " ++ v.compact
  | .notNonnegative v => "expected a non-negative number, got " ++ v.compact
  | .notFieldName v => "expected a field name, got " ++ v.compact

def ClauseFault.reason : ClauseFault → String
  | .emptySequence => "empty sequence"
  | .nullValue => "null value"
  | .notScalar v => "expected a string, number or boolean, got " ++ v.compact
  | .notSequence v => "expected a sequence of values, got " ++ v.compact
  | .notBounds v => "expected an object of range bounds, got " ++ v.compact

namespace QueryError

/-- The option the error is about. -/
def key : QueryError → String
  | .invalidOption key _ => key
  | .malformedClause key _ _ => key
  | .missingGroupBy => "groupBy"

def message : QueryError → String
  | .invalidOption key fault => "Invalid option `" ++ key ++ "`: " ++ fault.reason
  | .malformedClause key field fault =>
    "Malformed `" ++ key ++ "` clause for field `" ++ field ++ "`: " ++ fault.reason
  | .missingGroupBy => "Aggregation requires a non-empty `groupBy` field"

end QueryError
end DocSearch
