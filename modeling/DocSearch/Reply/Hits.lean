import DocSearch.Json.Text
import DocSearch.Text.Quoted

/-!
# The hit container of a search reply

A container gives a total and a list of hits. It is an object with these two members, in any
order and beside others, or an array of exactly the two. The total is a number of hits, or a
number with a relation that says whether it is exact. Members are read in the order in which they
stand, and the first bad one is reported.
-/
namespace DocSearch.Reply

/-- Whether a total is the number of hits, or at most that. -/
inductive TotalRelation where
  | exact
  | lowerBound
  deriving DecidableEq, Repr

/-- How many documents match. -/
structure Total where
  count : UInt64
  relation : TotalRelation := .exact
  deriving DecidableEq, Repr

/-- A total and the hits that were sent, in the order of the backend. -/
structure Hits where
  total : Total
  hits : List Json
  deriving DecidableEq, Repr

/-- What is wrong with a hit container. -/
inductive HitsFault where
  | missingTotal
  | missingHits
  | badTotal
  | notContainer (value : Json)
  | notSequence (value : Json)
  | tooFew (length : Nat)
  | tooMany (length : Nat)
  deriving DecidableEq, Repr

/-- A value by its type, and for scalars by its text. -/
def kindText : Json → String
  | .null => "null"
  | .bool b => "boolean `" ++ (Json.bool b).compact ++ "`"
  | .number n@(.integer ..) => "integer `" ++ (Json.number n).compact ++ "`"
  | .number n@(.double _) => "floating point `" ++ (Json.number n).compact ++ "`"
  | .string s => "string " ++ String.ofList (Quoted.text s)
  | .array _ => "sequence"
  | .object _ => "map"

def HitsFault.message : HitsFault → String
  | .missingTotal => "missing field `total`"
  | .missingHits => "missing field `hits`"
  | .badTotal => "data did not match any variant of untagged enum TotalHits"
  | .notContainer v => "invalid type: " ++ kindText v ++ ", expected struct HitContainer"
  | .notSequence v => "invalid type: " ++ kindText v ++ ", expected a sequence"
  | .tooFew n =>
    "invalid length " ++ toString n ++ ", expected struct HitContainer with 2 elements"
  | .tooMany n => "invalid length " ++ toString n ++ ", expected fewer elements in array"

namespace TotalRelation

/-- The relation of a name. -/
def ofName? : String → Option TotalRelation
  | "eq" => some .exact
  | "gte" => some .lowerBound
  | _ => none

/-- A relation is written as its name, or as an object that gives null under it. -/
def ofJson? : Json → Option TotalRelation
  | .string name => ofName? name
  | .object [(name, .null)] => ofName? name
  | _ => none

end TotalRelation

namespace Total

/-- A total is a number of hits, or an object with a number and a relation, beside any other
members. Without a relation it is exact. No total is given by position, as a container may be. -/
def ofJson? : Json → Option Total
  | .number n => return { count := ← n.toUInt64? }
  | .object members => do
    let count ← (← Json.Members.find? "value" members).toUInt64?
    match Json.Members.find? "relation" members with
    | none => return { count }
    | some r => return { count, relation := ← TotalRelation.ofJson? r }
  | _ => none

/-- Reads a total, all of whose faults are one. -/
def ofJson (value : Json) : Except HitsFault Total :=
  match ofJson? value with
  | some total => .ok total
  | none => .error .badTotal

end Total

namespace Hits

/-- Reads a list of hits. -/
def listOfJson : Json → Except HitsFault (List Json)
  | .array items => .ok items
  | v => .error (.notSequence v)

/-- Reads the members from one on, given what was read before. -/
def ofMembers (total : Option Total) (hits : Option (List Json)) :
    Json.Members → Except HitsFault Hits
  | [] =>
    match total, hits with
    | none, _ => .error .missingTotal
    | some _, none => .error .missingHits
    | some total, some hits => .ok { total, hits }
  | (key, value) :: rest =>
    if key = "total" then do
      let total ← Total.ofJson value
      ofMembers (some total) hits rest
    else if key = "hits" then do
      let hits ← listOfJson value
      ofMembers total (some hits) rest
    else ofMembers total hits rest

/-- Reads a container given by position. -/
def ofItems : List Json → Except HitsFault Hits
  | [] => .error (.tooFew 0)
  | [total] => do
    let _ ← Total.ofJson total
    .error (.tooFew 1)
  | total :: hits :: more => do
    let total ← Total.ofJson total
    let hits ← listOfJson hits
    if more.isEmpty then return { total, hits } else .error (.tooMany (more.length + 2))

/-- Reads a hit container. -/
def ofJson : Json → Except HitsFault Hits
  | .object members => ofMembers none none members
  | .array items => ofItems items
  | v => .error (.notContainer v)

end Hits
end DocSearch.Reply
