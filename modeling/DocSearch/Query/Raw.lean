import DocSearch.Query.Error
import DocSearch.Query.Options
import DocSearch.Text.Blank
import DocSearch.Text.Numeral

/-!
# Reading options from an object

An option that is absent, or whose value counts as empty, takes its default; any other value has
to be of the option's type. Keys that are no options are ignored. Options are read in a fixed
order, whatever the order of the object, and the first one that cannot be used is reported.
-/
namespace DocSearch

namespace RawOptions

/-- Values that count as not given: null, false, any zero, the empty string. -/
def isFalsy : Json → Bool
  | .null => true
  | .bool b => !b
  | .number n => n.toBinary64.isZero
  | .string s => s.isEmpty
  | .array _ | .object _ => false

/-- The value of an option that was given. -/
def given? (key : String) (raw : Json.Members) : Option Json :=
  (Json.Members.find? key raw).filter fun v => !isFalsy v

/-- Reads an option that was given. -/
def optional {α : Type} (read : Json → Except OptionFault α) (key : String) (raw : Json.Members) :
    Except QueryError (Option α) :=
  match given? key raw with
  | none => .ok none
  | some v =>
    match read v with
    | .ok a => .ok (some a)
    | .error fault => .error (.invalidOption key fault)

/-- A mapping of field names to values. -/
def mapping : Json → Except OptionFault Json.Members
  | .object members => .ok members
  | v => .error (.notMapping v)

/-- The unsigned integer a value stands for: a number, or a numeral with blanks around it. -/
def unsigned? : Json → Option UInt64
  | .number n => n.toUInt64?
  | .string s =>
    (Numeral.atMost? (UInt64.size - 1) (Blank.trim s.toList)).map UInt64.ofNat
  | _ => none

/-- An integer from one up. -/
def positive (v : Json) : Except OptionFault UInt64 :=
  match unsigned? v with
  | some n => if 0 < n then .ok n else .error (.notPositive v)
  | none => .error (.notPositive v)

/-- A number from zero up. -/
def nonnegative : Json → Except OptionFault Binary64
  | .number n =>
    if n.toBinary64.isNonnegative then .ok n.toBinary64
    else .error (.notNonnegative (.number n))
  | v => .error (.notNonnegative v)

/-- The name of a field. -/
def fieldName : Json → Except OptionFault String
  | .string s => .ok s
  | v => .error (.notFieldName v)

/-- The filters of one kind, each branch under a name of its own. -/
def readBranches (mustKey shouldKey : String) (raw : Json.Members) :
    Except QueryError Branches := do
  let must ← optional mapping mustKey raw
  let should ← optional mapping shouldKey raw
  return { must, should }

end RawOptions

open RawOptions

/-- The search options an object describes. -/
def SearchOptions.ofRaw (raw : Json.Members) : Except QueryError SearchOptions := do
  let term ← readBranches "mustMatch" "shouldMatch" raw
  let exclude ← readBranches "mustNotMatch" "shouldNotMatch" raw
  let fuzzy ← readBranches "mustFuzzyMatch" "shouldFuzzyMatch" raw
  let anywhere ← readBranches "mustAllMatch" "shouldAllMatch" raw
  let range ← readBranches "mustRange" "shouldRange" raw
  let oneOf ← readBranches "mustArray" "shouldArray" raw
  let fuzziness ← optional nonnegative "fuzziness" raw
  let pageSize ← optional positive "pageSize" raw
  let page ← optional positive "page" raw
  return {
    term, oneOf, range, fuzzy, exclude, anywhere
    fuzziness := fuzziness.getD defaultFuzziness
    sort := given? "sort" raw
    pageSize := pageSize.getD defaultPageSize
    page := page.getD defaultPage }

/-- The aggregation options an object describes. -/
def AggregationOptions.ofRaw (raw : Json.Members) : Except QueryError AggregationOptions := do
  let groupBy ← optional fieldName "groupBy" raw
  let term ← readBranches "mustMatch" "shouldMatch" raw
  let fuzzy ← readBranches "mustFuzzyMatch" "shouldFuzzyMatch" raw
  let range ← readBranches "mustRange" "shouldRange" raw
  let fuzziness ← optional nonnegative "fuzziness" raw
  let pageSize ← optional positive "pageSize" raw
  let page ← optional positive "page" raw
  return {
    term, range, fuzzy, groupBy
    fuzziness := fuzziness.getD defaultFuzziness
    pageSize := pageSize.getD defaultPageSize
    page := page.getD defaultPage }

end DocSearch
