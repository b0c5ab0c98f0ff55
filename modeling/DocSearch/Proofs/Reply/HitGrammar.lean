import DocSearch.Proofs.Json.Members
import DocSearch.Proofs.Reply.Completeness

/-!
# The grammar of hit containers

The forms in which relations, totals and hit containers may be written, given as relations between
a value and a JSON value that do not follow the reader. The reader accepts exactly these forms, and
gives back the value that was written. A container may be given by name or by position, a total by
name only. The reader goes through the members of an object as they stand, and the forms ask for
members by their names; this is the same, as no object holds a key twice.
-/
namespace DocSearch

/-! ## Members of values with distinct keys -/

namespace Json

theorem distinctKeys_of_find? (key : String) (members : Members) (v : Json)
    (distinct : membersDistinctKeys members) (found : Members.find? key members = some v) :
    v.DistinctKeys := by
  induction members with
  | nil => cases found
  | cons m rest ih =>
    obtain ⟨k, w⟩ := m
    obtain ⟨here, later⟩ := distinct
    rw [Members.find?] at found
    split at found
    · obtain rfl := Option.some.inj found
      exact here
    · exact ih later found

theorem distinctKeys_of_member? (key : String) (value v : Json) (distinct : value.DistinctKeys)
    (found : value.member? key = some v) : v.DistinctKeys := by
  cases value with
  | object members => exact distinctKeys_of_find? key members v distinct.2 found
  | _ => cases found

end Json

namespace Reply

/-! ## The forms -/

def TotalRelation.name : TotalRelation → String
  | .exact => "eq"
  | .lowerBound => "gte"

/-- A relation is written as its name, or as an object that has null under its name and nothing
else. -/
inductive TotalRelation.Written (relation : TotalRelation) : Json → Prop
  | text : Written relation (.string relation.name)
  | member : Written relation (.object [(relation.name, .null)])

/-- A total is written as its count, if it is exact, or as an object with a count and perhaps a
relation, beside any other members. -/
inductive Total.Written : Total → Json → Prop
  | count (n : UInt64) : Written { count := n } (.ofUInt64 n)
  | unrelated {members : Json.Members} {n : UInt64}
      (value : Json.Members.find? "value" members = some (.ofUInt64 n))
      (absent : Json.Members.find? "relation" members = none) :
      Written { count := n } (.object members)
  | related {members : Json.Members} {n : UInt64} {relation : TotalRelation} {r : Json}
      (value : Json.Members.find? "value" members = some (.ofUInt64 n))
      (found : Json.Members.find? "relation" members = some r) (written : relation.Written r) :
      Written { count := n, relation } (.object members)

/-- A container is written as an object with a total and a list of hits, beside any other members
and in any order, or as an array of exactly the two. -/
inductive Hits.Written : Hits → Json → Prop
  | byName {members : Json.Members} {total : Total} {t : Json} {hits : List Json}
      (given : Json.Members.find? "total" members = some t) (written : total.Written t)
      (listed : Json.Members.find? "hits" members = some (.array hits)) :
      Written { total, hits } (.object members)
  | byPosition {total : Total} {t : Json} {hits : List Json} (written : total.Written t) :
      Written { total, hits } (.array [t, .array hits])

/-! ## The reader accepts the forms and no others -/

theorem TotalRelation.ofName?_eq_some_iff (name : String) (relation : TotalRelation) :
    ofName? name = some relation ↔ name = relation.name := by
  unfold ofName?
  split
  · cases relation <;> simp [TotalRelation.name]
  · cases relation <;> simp [TotalRelation.name]
  next notExact notBound =>
    cases relation
    · simpa [TotalRelation.name] using notExact
    · simpa [TotalRelation.name] using notBound

theorem TotalRelation.ofJson?_eq_some_iff (v : Json) (relation : TotalRelation) :
    ofJson? v = some relation ↔ relation.Written v := by
  constructor
  · intro read
    unfold ofJson? at read
    split at read
    · rw [ofName?_eq_some_iff] at read
      rw [read]
      exact .text
    · rw [ofName?_eq_some_iff] at read
      rw [read]
      exact .member
    · cases read
  · intro written
    cases written with
    | text => exact (ofName?_eq_some_iff _ relation).mpr rfl
    | member => exact (ofName?_eq_some_iff _ relation).mpr rfl

theorem Total.ofJson?_eq_some_iff (v : Json) (total : Total) :
    ofJson? v = some total ↔ total.Written v := by
  constructor
  · intro read
    unfold ofJson? at read
    split at read
    next n =>
      obtain ⟨count, counted, same⟩ := Option.bind_eq_some_iff.mp read
      obtain rfl := Option.some.inj same
      have unsigned : (Json.number n).toUInt64? = some count := counted
      rw [(toUInt64?_eq_some_iff _ _).mp unsigned]
      exact .count count
    next members =>
      obtain ⟨value, found, read⟩ := Option.bind_eq_some_iff.mp read
      obtain ⟨count, counted, read⟩ := Option.bind_eq_some_iff.mp read
      rw [toUInt64?_eq_some_iff] at counted
      rw [counted] at found
      split at read
      next absent =>
        obtain rfl := Option.some.inj read
        exact .unrelated found absent
      next r given =>
        obtain ⟨relation, related, same⟩ := Option.bind_eq_some_iff.mp read
        obtain rfl := Option.some.inj same
        exact .related found given ((TotalRelation.ofJson?_eq_some_iff r relation).mp related)
    · cases read
  · intro written
    have unsigned : ∀ n, (Json.ofUInt64 n).toUInt64? = some n := fun n =>
      (toUInt64?_eq_some_iff _ n).mpr rfl
    cases written with
    | count n =>
      have counted := unsigned n
      simp only [Json.ofUInt64, Json.toUInt64?] at counted
      simp [ofJson?, Json.ofUInt64, counted]
    | unrelated value absent => simp [ofJson?, value, unsigned, absent]
    | related value found written =>
      have related := (TotalRelation.ofJson?_eq_some_iff _ _).mpr written
      simp [ofJson?, value, unsigned, found, related]

theorem Total.ofJson_eq_ok_iff (v : Json) (total : Total) :
    ofJson v = .ok total ↔ total.Written v := by
  rw [← ofJson?_eq_some_iff, ofJson]
  cases ofJson? v <;> simp

namespace Hits

theorem listOfJson_eq_ok_iff (v : Json) (hits : List Json) :
    listOfJson v = .ok hits ↔ v = .array hits := by
  cases v <;> simp [listOfJson]

/-- Reading members from one on gives the total and the hits among them, or those read before. -/
theorem ofMembers_eq_ok_iff (total : Option Total) (hits : Option (List Json))
    (members : Json.Members) (distinct : (Json.Members.keys members).Nodup) (result : Hits) :
    ofMembers total hits members = .ok result ↔
      (match Json.Members.find? "total" members with
        | some t => result.total.Written t
        | none => total = some result.total) ∧
      (match Json.Members.find? "hits" members with
        | some h => h = .array result.hits
        | none => hits = some result.hits) := by
  -- By induction on the members that are left; no later one can replace what was read.
  induction members generalizing total hits with
  | nil =>
    obtain ⟨t, h⟩ := result
    cases total <;> cases hits <;> simp [ofMembers, Json.Members.find?]
  | cons m rest ih =>
    obtain ⟨key, value⟩ := m
    obtain ⟨fresh, later⟩ := List.nodup_cons.mp distinct
    rw [← Json.Members.keys, ← Json.Members.find?_eq_none_iff] at fresh
    rw [ofMembers]
    by_cases isTotal : key = "total"
    · subst isTotal
      rw [if_pos rfl, bind_eq_ok_iff]
      simp only [ih _ _ later, fresh, Total.ofJson_eq_ok_iff, Json.Members.find?, if_true,
        String.reduceEq, if_false, Option.some.injEq]
      grind
    · by_cases isHits : key = "hits"
      · subst isHits
        rw [if_neg isTotal, if_pos rfl, bind_eq_ok_iff]
        simp only [ih _ _ later, fresh, listOfJson_eq_ok_iff, Json.Members.find?, if_true,
          String.reduceEq, if_false, Option.some.injEq]
        grind
      · rw [if_neg isTotal, if_neg isHits, ih _ _ later]
        simp only [Json.Members.find?, isTotal, isHits, if_false]

theorem ofItems_eq_ok_iff (items : List Json) (result : Hits) :
    ofItems items = .ok result ↔ ∃ t, result.total.Written t ∧ items = [t, .array result.hits] := by
  match items with
  | [] => simp [ofItems]
  | [t] =>
    cases read : Total.ofJson t <;> simp [ofItems, read, bind, Except.bind]
  | t :: h :: more =>
    rw [ofItems, bind_eq_ok_iff]
    simp only [bind_eq_ok_iff, Total.ofJson_eq_ok_iff, listOfJson_eq_ok_iff]
    cases more with
    | nil => simp [pure, Except.pure]; grind
    | cons next more => simp

/-- A container is read exactly if it is written in one of the forms. -/
theorem ofJson_eq_ok_iff (v : Json) (distinct : v.DistinctKeys) (hits : Hits) :
    ofJson v = .ok hits ↔ hits.Written v := by
  constructor
  · intro read
    cases v with
    | object members =>
      obtain ⟨total, listed⟩ := (ofMembers_eq_ok_iff none none members distinct.1 hits).mp read
      cases given : Json.Members.find? "total" members with
      | none => simp [given] at total
      | some t =>
        cases found : Json.Members.find? "hits" members with
        | none => simp [found] at listed
        | some h =>
          simp only [given] at total
          simp only [found] at listed
          exact .byName given total (listed ▸ found)
    | array items =>
      obtain ⟨t, written, rfl⟩ := (ofItems_eq_ok_iff items hits).mp read
      exact .byPosition written
    | _ => cases read
  · intro written
    cases written with
    | byName given written listed =>
      refine (ofMembers_eq_ok_iff none none _ distinct.1 _).mpr ?_
      simp only [given, listed]
      exact ⟨written, trivial⟩
    | @byPosition total t hits written =>
      exact (ofItems_eq_ok_iff _ { total, hits }).mpr ⟨t, written, rfl⟩

end Hits

/-! ## Replies -/

/-- A reply gives hits if its hit container is written for them. -/
def GivesHits (reply : Json) (hits : Hits) : Prop :=
  ∃ container, reply.member? "hits" = some container ∧ hits.Written container

theorem hasHits_iff_givesHits (reply : Json) (distinct : reply.DistinctKeys) (hits : Hits) :
    HasHits reply hits ↔ GivesHits reply hits := by
  refine exists_congr fun container => and_congr_right fun found => ?_
  exact Hits.ofJson_eq_ok_iff container
    (Json.distinctKeys_of_member? "hits" reply container distinct found) hits

/-- Once the check is passed, only the shape of a reply is found at fault. -/
theorem unexpected_of_searchHits_error (reply : Json) (f : Failure) (unnoticed : ¬ IsNoticed reply)
    (refused : searchHits reply = .error f) : ∃ fault, f = .unexpected fault reply := by
  have checked := (checkComplete_eq_ok_iff reply).mpr unnoticed
  obtain failed | ⟨-, fault, -, same⟩ := (searchHits_eq_error_iff reply f).mp refused
  · rw [checked] at failed
    cases failed
  · exact ⟨fault, same⟩

/-- From a reply that is not noticed to have failed, exactly the hits that its container is written
for are returned; if it is written for none, the shape of the reply is at fault, and the reply is
handed back. -/
theorem hits_read_iff_written (reply : Json) (distinct : reply.DistinctKeys)
    (unnoticed : ¬ IsNoticed reply) :
    (∀ hits, searchHits reply = .ok hits ↔ GivesHits reply hits) ∧
    ((¬ ∃ hits, GivesHits reply hits) →
      ∃ fault, searchHits reply = .error (.unexpected fault reply)) := by
  have read : ∀ hits, searchHits reply = .ok hits ↔ GivesHits reply hits := fun hits => by
    rw [searchHits_eq_ok_iff, hasHits_iff_givesHits reply distinct]
    exact and_iff_right unnoticed
  refine ⟨read, fun unwritten => ?_⟩
  cases searched : searchHits reply with
  | ok hits => exact absurd ⟨hits, (read hits).mp searched⟩ unwritten
  | error f =>
    obtain ⟨fault, rfl⟩ := unexpected_of_searchHits_error reply f unnoticed searched
    exact ⟨fault, rfl⟩

/-- A reply of nothing but a hit container. -/
def ofContainer (container : Json) : Json := .object [("hits", container)]

theorem not_isNoticed_ofContainer (container : Json) : ¬ IsNoticed (ofContainer container) := by
  intro noticed
  cases noticed with
  | error e given nonnull => cases given
  | shardsFailed n given positive => cases given

/-- A container given by position, whose total has its relation first and written as an object. -/
theorem manyHits_read :
    let total := Json.object [("relation", .object [("gte", .null)]), ("value", .ofUInt64 10000)]
    let reply := ofContainer (.array [total, .array [.ofUInt64 7]])
    reply.DistinctKeys ∧ ¬ IsNoticed reply ∧
      searchHits reply = .ok ⟨⟨10000, .lowerBound⟩, [.ofUInt64 7]⟩ := by
  intro total reply
  have distinct : reply.DistinctKeys := by
    simp [reply, total, ofContainer, Json.DistinctKeys, Json.membersDistinctKeys,
      Json.itemsDistinctKeys, Json.Members.keys, Json.ofUInt64]
  have unnoticed := not_isNoticed_ofContainer (.array [total, .array [.ofUInt64 7]])
  have written : Total.Written ⟨10000, .lowerBound⟩ total := .related rfl rfl .member
  exact ⟨distinct, unnoticed,
    ((hits_read_iff_written reply distinct unnoticed).1 _).mpr ⟨_, rfl, .byPosition written⟩⟩

/-- A total given by position is refused, with a relation and without. -/
theorem positional_total_refused :
    let count := Json.ofUInt64 3
    ∀ total ∈ [Json.array [count], .array [count, .string "gte"]],
      let reply := ofContainer (.object [("total", total), ("hits", .array [])])
      reply.DistinctKeys ∧ ¬ IsNoticed reply ∧
        searchHits reply = .error (.unexpected (.malformedHits .badTotal) reply) := by
  intro count total given reply
  refine ⟨?_, not_isNoticed_ofContainer _, ?_⟩
  · have plain : total.DistinctKeys := by
      simp only [List.mem_cons, List.not_mem_nil, or_false] at given
      rcases given with rfl | rfl <;>
        simp [count, Json.DistinctKeys, Json.itemsDistinctKeys, Json.ofUInt64]
    simp [reply, ofContainer, Json.DistinctKeys, Json.membersDistinctKeys,
      Json.itemsDistinctKeys, Json.Members.keys, plain]
  · simp only [List.mem_cons, List.not_mem_nil, or_false] at given
    rcases given with rfl | rfl <;> rfl

end Reply
end DocSearch
