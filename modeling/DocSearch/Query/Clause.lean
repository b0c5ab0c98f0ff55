import DocSearch.Json.Value

/-!
# Clauses

A clause is a condition on a document. The atomic ones are left to the backend; a group holds if
one of its clauses does, and a negation if its clause does not. Each clause has one form in the
backend's query language.
-/
namespace DocSearch

/-- A condition on a document. -/
inductive Clause where
  /-- The field has this value. -/
  | term (field : String) (value : Json)
  /-- The field has one of these values. -/
  | terms (field : String) (values : List Json)
  /-- The field lies within these bounds. -/
  | range (field : String) (bounds : Json.Members)
  /-- The field contains this text. -/
  | exactText (field : String) (value : Json)
  /-- The field contains a text not farther from this one than the tolerance. -/
  | fuzzyText (field : String) (value : Json) (fuzziness : Binary64)
  /-- Some field contains this text. -/
  | anywhere (value : Json)
  /-- At least one of these holds. -/
  | anyOf (clauses : List Clause)
  /-- This does not hold. -/
  | negated (clause : Clause)
  deriving Repr, Inhabited

namespace Clause

/-- The weight of an exact text match, above that of a fuzzy one. -/
def exactBoost : Binary64 := .ofNat 3

/-- The weight of a fuzzy text match. -/
def fuzzyBoost : Binary64 := .ofNat 1

/-- The field that stands for all fields of a document. -/
def allFields : String := "_all"

/-- The text itself, or one close to it. -/
def exactOrFuzzy (field : String) (value : Json) (fuzziness : Binary64) : Clause :=
  .anyOf [.exactText field value, .fuzzyText field value fuzziness]

/-- Anything but the text. -/
def notExact (field : String) (value : Json) : Clause :=
  .negated (.exactText field value)

/-- An object with one member. -/
def single (key : String) (value : Json) : Json := .object [(key, value)]

mutual

/-- The clause in the backend's query language. -/
def toJson : Clause → Json
  | .term field value => single "term" (single field value)
  | .terms field values => single "terms" (single field (.array values))
  | .range field bounds => single "range" (single field (.object bounds))
  | .exactText field value =>
    single "multi_match" (.object
      [("query", value), ("fields", .array [.string field]), ("boost", .ofBinary64 exactBoost)])
  | .fuzzyText field value fuzziness =>
    single "multi_match" (.object
      [("query", value), ("fields", .array [.string field]),
        ("fuzziness", .ofBinary64 fuzziness), ("boost", .ofBinary64 fuzzyBoost)])
  | .anywhere value => single "match" (single allFields (single "query" value))
  | .anyOf clauses =>
    single "bool" (.object
      [("should", .array (listToJson clauses)), ("minimum_should_match", .ofUInt64 1)])
  | .negated clause => single "bool" (single "must_not" (.array [clause.toJson]))

def listToJson : List Clause → List Json
  | [] => []
  | c :: rest => c.toJson :: listToJson rest

end

theorem listToJson_eq_map (clauses : List Clause) :
    listToJson clauses = clauses.map toJson := by
  induction clauses with
  | nil => rfl
  | cons c rest ih => simp [listToJson, ih]

end Clause
end DocSearch
