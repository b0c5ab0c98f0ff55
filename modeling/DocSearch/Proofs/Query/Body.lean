import DocSearch.Proofs.Json.Same
import DocSearch.Query.Document

/-!
# What a body says of its query

The body of a request determines the query, however clauses are nested: two queries with the same
body are the same. Sameness is meant as a program compares values, without regard to the order of
members and the sign of zeros, and in the strict sense as well. Only a tolerance that is not finite
is lost, since it has no text.
-/
namespace DocSearch

/-! ## Sameness of queries -/

namespace Clause

mutual

def Same : Clause → Clause → Prop
  | .term f v, .term g w => f = g ∧ v.Same w
  | .terms f vs, .terms g ws => f = g ∧ Json.ItemsSame vs ws
  | .range f bounds, .range g bounds' => f = g ∧ (Json.object bounds).Same (.object bounds')
  | .exactText f v, .exactText g w => f = g ∧ v.Same w
  | .fuzzyText f v x, .fuzzyText g w y => f = g ∧ v.Same w ∧ x.Same y
  | .anywhere v, .anywhere w => v.Same w
  | .anyOf cs, .anyOf ds => ListSame cs ds
  | .negated c, .negated d => c.Same d
  | _, _ => False

def ListSame : List Clause → List Clause → Prop
  | [], [] => True
  | c :: cs, d :: ds => c.Same d ∧ ListSame cs ds
  | _, _ => False

end

mutual

/-- Every tolerance in the clause is finite. -/
def isFinite : Clause → Bool
  | .fuzzyText _ _ fuzziness => fuzziness.isFinite
  | .anyOf clauses => listIsFinite clauses
  | .negated c => c.isFinite
  | .term _ _ | .terms _ _ | .range _ _ | .exactText _ _ | .anywhere _ => true

def listIsFinite : List Clause → Bool
  | [] => true
  | c :: rest => c.isFinite && listIsFinite rest

end

end Clause

structure BoolFilter.Same (f g : BoolFilter) : Prop where
  must : Clause.ListSame f.must g.must
  should : Clause.ListSame f.should g.should

def BoolFilter.isFinite (f : BoolFilter) : Bool :=
  Clause.listIsFinite f.must && Clause.listIsFinite f.should

structure GroupAggregation.Same (a b : GroupAggregation) : Prop where
  field : a.field = b.field
  filter : Option.Rel BoolFilter.Same a.filter b.filter

def GroupAggregation.isFinite (a : GroupAggregation) : Bool := a.filter.all BoolFilter.isFinite

structure QueryDocument.Same (q r : QueryDocument) : Prop where
  filter : Option.Rel BoolFilter.Same q.filter r.filter
  offset : q.offset = r.offset
  size : q.size = r.size
  sort : Option.Rel Json.Same q.sort r.sort
  aggregation : Option.Rel GroupAggregation.Same q.aggregation r.aggregation

def QueryDocument.isFinite (q : QueryDocument) : Bool :=
  q.filter.all BoolFilter.isFinite && q.aggregation.all GroupAggregation.isFinite

/-! ## Faithful forms -/

/-- Of values that fit, the same ones and no others have the same form, and equal ones only have
equal forms. -/
structure Json.FaithfulOn {α : Type} (fits : α → Bool) (write : α → Json)
    (same : α → α → Prop) : Prop where
  same_iff : ∀ a b, fits a = true → fits b = true → ((write a).Same (write b) ↔ same a b)
  injOn : ∀ a b, fits a = true → fits b = true → write a = write b → a = b

namespace Json.FaithfulOn

variable {α : Type} {fits : α → Bool} {write : α → Json} {same : α → α → Prop}

/-- What may be absent is written as nothing if it is. -/
theorem map_same_iff (faithful : FaithfulOn fits write same) (a b : Option α)
    (fit : a.all fits = true) (fit' : b.all fits = true) :
    Option.Rel Json.Same (a.map write) (b.map write) ↔ Option.Rel same a b := by
  cases a <;> cases b <;> simp_all [faithful.same_iff]

theorem map_injOn (faithful : FaithfulOn fits write same) (a b : Option α)
    (fit : a.all fits = true) (fit' : b.all fits = true) (written : a.map write = b.map write) :
    a = b := by
  cases a with
  | none =>
    cases b with
    | none => rfl
    | some b => cases written
  | some a =>
    cases b with
    | none => cases written
    | some b => rw [faithful.injOn a b fit fit' (Option.some.inj written)]

end Json.FaithfulOn

/-! ## Clauses -/

namespace Clause

theorem single_same_iff (k l : String) (v w : Json) :
    (single k v).Same (single l w) ↔ k = l ∧ v.Same w := by
  by_cases same : k = l
  · simp [single, Json.MembersFound, Json.Members.find?, same]
  · simp [single, Json.MembersFound, Json.Members.find?, same, Ne.symm same]

theorem single_eq_iff (k l : String) (v w : Json) : single k v = single l w ↔ k = l ∧ v = w := by
  simp [single]

theorem exactText_toJson_same_iff (f g : String) (v w : Json) :
    (exactText f v).toJson.Same (exactText g w).toJson ↔ f = g ∧ v.Same w := by
  have boost : (Json.ofBinary64 exactBoost).Same (.ofBinary64 exactBoost) :=
    (Json.ofBinary64_same_iff rfl rfl).mpr rfl
  simp [toJson, single_same_iff, Json.MembersFound, Json.Members.find?, Json.ItemsSame, boost,
    and_comm]

theorem fuzzyText_toJson_same_iff (f g : String) (v w : Json) {x y : Binary64}
    (finite : x.isFinite = true) (finite' : y.isFinite = true) :
    (fuzzyText f v x).toJson.Same (fuzzyText g w y).toJson ↔ f = g ∧ v.Same w ∧ x.Same y := by
  have boost : (Json.ofBinary64 fuzzyBoost).Same (.ofBinary64 fuzzyBoost) :=
    (Json.ofBinary64_same_iff rfl rfl).mpr rfl
  simp [toJson, single_same_iff, Json.MembersFound, Json.Members.find?, Json.ItemsSame, boost,
    Json.ofBinary64_same_iff finite finite', and_left_comm]

theorem anyOf_toJson_same_iff (cs ds : List Clause) :
    (anyOf cs).toJson.Same (anyOf ds).toJson ↔
      Json.ItemsSame (listToJson cs) (listToJson ds) := by
  simp [toJson, single_same_iff, Json.MembersFound, Json.Members.find?, Json.ofUInt64_same_iff]

theorem negated_toJson_same_iff (c d : Clause) :
    (negated c).toJson.Same (negated d).toJson ↔ c.toJson.Same d.toJson := by
  simp [toJson, single_same_iff, Json.ItemsSame]

/-- The word a clause is written under, and the number of members below it: no two kinds of
clauses have the same. -/
def form : Clause → String × Nat
  | .term _ _ => ("term", 1)
  | .terms _ _ => ("terms", 1)
  | .range _ _ => ("range", 1)
  | .exactText _ _ => ("multi_match", 3)
  | .fuzzyText _ _ _ => ("multi_match", 4)
  | .anywhere _ => ("match", 1)
  | .anyOf _ => ("bool", 2)
  | .negated _ => ("bool", 1)

theorem toJson_eq_single (c : Clause) :
    ∃ content, c.toJson = single c.form.1 (.object content) ∧ content.length = c.form.2 := by
  cases c <;> exact ⟨_, rfl, rfl⟩

theorem form_eq_of_toJson_same {c d : Clause} (same : c.toJson.Same d.toJson) :
    c.form = d.form := by
  obtain ⟨content, written, size⟩ := c.toJson_eq_single
  obtain ⟨content', written', size'⟩ := d.toJson_eq_single
  rw [written, written', single_same_iff, Json.object_same_object, size, size'] at same
  exact Prod.ext same.1 same.2.1

theorem form_eq_of_same {c d : Clause} (same : c.Same d) : c.form = d.form := by
  cases c <;> cases d <;> simp_all [Same, form]

theorem form_eq_of_toJson_eq {c d : Clause} (same : c.toJson = d.toJson) : c.form = d.form := by
  obtain ⟨content, written, size⟩ := c.toJson_eq_single
  obtain ⟨content', written', size'⟩ := d.toJson_eq_single
  rw [written, written'] at same
  simp only [single, Json.object.injEq, List.cons.injEq, Prod.mk.injEq, and_true] at same
  exact Prod.ext same.1 (by rw [← size, ← size', same.2])

mutual

theorem toJson_same_iff (c d : Clause) (finite : c.isFinite = true) (finite' : d.isFinite = true) :
    c.toJson.Same d.toJson ↔ c.Same d := by
  by_cases alike : c.form = d.form
  · cases c <;> cases d <;> simp [form] at alike
    case term.term => simp [toJson, single_same_iff, Same]
    case terms.terms => simp [toJson, single_same_iff, Same]
    case range.range => simp [toJson, single_same_iff, Same]
    case exactText.exactText => exact exactText_toJson_same_iff _ _ _ _
    case fuzzyText.fuzzyText => exact fuzzyText_toJson_same_iff _ _ _ _ finite finite'
    case anywhere.anywhere => simp [toJson, single_same_iff, Same]
    case anyOf.anyOf cs ds =>
      exact (anyOf_toJson_same_iff cs ds).trans (listToJson_same_iff cs ds finite finite')
    case negated.negated c d =>
      exact (negated_toJson_same_iff c d).trans (toJson_same_iff c d finite finite')
  · exact iff_of_false (fun same => alike (form_eq_of_toJson_same same))
      (fun same => alike (form_eq_of_same same))

theorem listToJson_same_iff (cs ds : List Clause) (finite : listIsFinite cs = true)
    (finite' : listIsFinite ds = true) :
    Json.ItemsSame (listToJson cs) (listToJson ds) ↔ ListSame cs ds := by
  match cs, ds with
  | [], [] => exact Iff.rfl
  | [], _ :: _ => exact Iff.rfl
  | _ :: _, [] => exact Iff.rfl
  | c :: cs, d :: ds =>
    rw [listIsFinite, Bool.and_eq_true] at finite finite'
    exact and_congr (toJson_same_iff c d finite.1 finite'.1)
      (listToJson_same_iff cs ds finite.2 finite'.2)

end

mutual

theorem eq_of_toJson_eq (c d : Clause) (finite : c.isFinite = true) (finite' : d.isFinite = true)
    (same : c.toJson = d.toJson) : c = d := by
  have alike := form_eq_of_toJson_eq same
  cases c <;> cases d <;> simp [form] at alike
  case term.term => simpa [toJson, single] using same
  case terms.terms => simpa [toJson, single] using same
  case range.range => simpa [toJson, single] using same
  case exactText.exactText => simpa [toJson, single, and_comm] using same
  case fuzzyText.fuzzyText f v x g w y =>
    simp only [toJson, single, Json.object.injEq, List.cons.injEq, Prod.mk.injEq, true_and,
      and_true, Json.array.injEq, Json.string.injEq] at same
    obtain ⟨rfl, rfl, tolerance⟩ := same
    rw [Json.ofBinary64_injOn finite finite' tolerance]
  case anywhere.anywhere => simpa [toJson, single] using same
  case anyOf.anyOf cs ds =>
    have members : listToJson cs = listToJson ds := by simpa [toJson, single] using same
    rw [eq_of_listToJson_eq cs ds finite finite' members]
  case negated.negated c d =>
    have inner : c.toJson = d.toJson := by simpa [toJson, single] using same
    rw [eq_of_toJson_eq c d finite finite' inner]

theorem eq_of_listToJson_eq (cs ds : List Clause) (finite : listIsFinite cs = true)
    (finite' : listIsFinite ds = true) (same : listToJson cs = listToJson ds) : cs = ds := by
  match cs, ds with
  | [], [] => rfl
  | [], _ :: _ => cases same
  | _ :: _, [] => cases same
  | c :: cs, d :: ds =>
    rw [listIsFinite, Bool.and_eq_true] at finite finite'
    obtain ⟨here, later⟩ := List.cons.inj same
    rw [eq_of_toJson_eq c d finite.1 finite'.1 here,
      eq_of_listToJson_eq cs ds finite.2 finite'.2 later]

end

end Clause

/-! ## Objects with members that may be absent -/

namespace QueryDocument

/-- The members that are given, in this order. -/
def given (parts : List (String × Option Json)) : Json.Members :=
  parts.flatMap fun p => optionalMember p.1 p.2

theorem find?_given_nil (key : String) : Json.Members.find? key (given []) = none := rfl

theorem find?_given_cons (key : String) (p : String × Option Json)
    (parts : List (String × Option Json)) :
    Json.Members.find? key (given (p :: parts)) =
      (if p.1 = key then p.2 else none).or (Json.Members.find? key (given parts)) := by
  obtain ⟨name, v⟩ := p
  rw [given, List.flatMap_cons, Json.Members.find?_append]
  cases v <;> simp [optionalMember, Json.Members.find?, given]

theorem find?_given_of_not_mem {key : String} {parts : List (String × Option Json)}
    (absent : key ∉ parts.map Prod.fst) : Json.Members.find? key (given parts) = none := by
  induction parts with
  | nil => rfl
  | cons p parts ih =>
    rw [List.map_cons, List.mem_cons, not_or] at absent
    rw [find?_given_cons, if_neg (Ne.symm absent.1), ih absent.2]
    rfl

theorem find?_given_of_mem {key : String} {v : Option Json} {parts : List (String × Option Json)}
    (distinct : (parts.map Prod.fst).Nodup) (member : (key, v) ∈ parts) :
    Json.Members.find? key (given parts) = v := by
  induction parts with
  | nil => cases member
  | cons p parts ih =>
    obtain ⟨absent, distinct⟩ := List.nodup_cons.mp distinct
    rw [find?_given_cons]
    cases member with
    | head => rw [if_pos rfl, find?_given_of_not_mem absent, Option.or_none]
    | tail _ later =>
      have listed : key ∈ parts.map Prod.fst := List.mem_map.mpr ⟨(key, v), later, rfl⟩
      have elsewhere : p.1 ≠ key := fun same => absent (by rwa [same])
      rw [if_neg elsewhere, ih distinct later, Option.none_or]

theorem keys_given_sublist (parts : List (String × Option Json)) :
    (Json.Members.keys (given parts)).Sublist (parts.map Prod.fst) := by
  induction parts with
  | nil => exact .slnil
  | cons p parts ih =>
    obtain ⟨name, v⟩ := p
    cases v with
    | none => exact ih.cons name
    | some v => exact ih.cons_cons name

/-- Two objects of the same parts are the same if each part is. -/
theorem given_same_iff {parts parts' : List (String × Option Json)}
    (names : parts.map Prod.fst = parts'.map Prod.fst) (distinct : (parts.map Prod.fst).Nodup) :
    (Json.object (given parts)).Same (.object (given parts')) ↔
      List.Forall₂ (fun p p' => Option.Rel Json.Same p.2 p'.2) parts parts' := by
  have distinct' : (parts'.map Prod.fst).Nodup := names ▸ distinct
  rw [Json.object_same_iff (distinct.sublist (keys_given_sublist parts))
    (distinct'.sublist (keys_given_sublist parts'))]
  clear distinct'
  induction parts generalizing parts' with
  | nil =>
    obtain rfl := List.map_eq_nil_iff.mp names.symm
    exact iff_of_true (fun _ => .none) .nil
  | cons p parts ih =>
    cases parts' with
    | nil => cases names
    | cons p' parts' =>
      obtain ⟨name, v⟩ := p
      obtain ⟨name', v'⟩ := p'
      obtain ⟨same, later⟩ := List.cons.inj names
      obtain rfl : name = name' := same
      obtain ⟨absent, distinct⟩ := List.nodup_cons.mp distinct
      rw [List.forall₂_cons]
      refine Iff.trans ?_ (and_congr_right' (ih later distinct))
      have lost := find?_given_of_not_mem absent
      have lost' := find?_given_of_not_mem (later ▸ absent)
      simp only [find?_given_cons]
      constructor
      · intro related
        refine ⟨by simpa [lost, lost'] using related name, fun key => ?_⟩
        by_cases here : name = key
        · subst here
          rw [lost, lost']
          exact .none
        · simpa [here] using related key
      · rintro ⟨related, later⟩ key
        by_cases here : name = key
        · subst here
          simpa [lost, lost'] using related
        · simpa [here] using later key

theorem given_injOn {parts parts' : List (String × Option Json)}
    (names : parts.map Prod.fst = parts'.map Prod.fst) (distinct : (parts.map Prod.fst).Nodup)
    (same : given parts = given parts') : parts = parts' := by
  induction parts generalizing parts' with
  | nil => exact (List.map_eq_nil_iff.mp names.symm).symm
  | cons p parts ih =>
    cases parts' with
    | nil => cases names
    | cons p' parts' =>
      obtain ⟨name, v⟩ := p
      obtain ⟨name', v'⟩ := p'
      obtain ⟨sameName, later⟩ := List.cons.inj names
      obtain rfl : name = name' := sameName
      obtain ⟨absent, distinct⟩ := List.nodup_cons.mp distinct
      have found := congrArg (Json.Members.find? name) same
      simp only [find?_given_cons, find?_given_of_not_mem absent,
        find?_given_of_not_mem (later ▸ absent), if_true, Option.or_none] at found
      subst found
      rw [given, given, List.flatMap_cons, List.flatMap_cons] at same
      rw [ih later distinct (List.append_cancel_left same)]

end QueryDocument

/-! ## Filters, aggregations and queries -/

namespace BoolFilter

/-- What a branch is written as, if it has clauses. -/
def branchValue (clauses : List Clause) : Option Json :=
  if clauses.isEmpty then none else some (.array (Clause.listToJson clauses))

def parts (f : BoolFilter) : List (String × Option Json) :=
  [("must", branchValue f.must), ("should", branchValue f.should)]

theorem distinct_parts (f : BoolFilter) : (f.parts.map Prod.fst).Nodup := by
  simp [parts]

theorem toJson_eq (f : BoolFilter) :
    f.toJson = Clause.single "bool" (.object (QueryDocument.given f.parts)) := by
  obtain ⟨must, should⟩ := f
  cases must <;> cases should <;> rfl

theorem branchValue_same_iff (cs ds : List Clause) (finite : Clause.listIsFinite cs = true)
    (finite' : Clause.listIsFinite ds = true) :
    Option.Rel Json.Same (branchValue cs) (branchValue ds) ↔ Clause.ListSame cs ds := by
  match cs, ds with
  | [], [] => exact iff_of_true .none trivial
  | [], _ :: _ => exact iff_of_false (fun related => by cases related) id
  | _ :: _, [] => exact iff_of_false (fun related => by cases related) id
  | c :: cs, d :: ds =>
    rw [← Clause.listToJson_same_iff _ _ finite finite']
    exact Option.rel_some_some

theorem branchValue_injOn (cs ds : List Clause) (finite : Clause.listIsFinite cs = true)
    (finite' : Clause.listIsFinite ds = true) (same : branchValue cs = branchValue ds) :
    cs = ds := by
  match cs, ds with
  | [], [] => rfl
  | [], _ :: _ => cases same
  | _ :: _, [] => cases same
  | c :: cs, d :: ds =>
    exact Clause.eq_of_listToJson_eq _ _ finite finite' (Json.array.inj (Option.some.inj same))

theorem toJson_same_iff (f g : BoolFilter) (finite : f.isFinite = true)
    (finite' : g.isFinite = true) : f.toJson.Same g.toJson ↔ f.Same g := by
  rw [isFinite, Bool.and_eq_true] at finite finite'
  have names : f.parts.map Prod.fst = g.parts.map Prod.fst := rfl
  have branches := QueryDocument.given_same_iff names f.distinct_parts
  rw [toJson_eq, toJson_eq, Clause.single_same_iff, branches]
  simp only [parts, List.forall₂_cons, List.forall₂_nil_left_iff, and_true, true_and,
    branchValue_same_iff _ _ finite.1 finite'.1, branchValue_same_iff _ _ finite.2 finite'.2]
  exact ⟨fun ⟨must, should⟩ => ⟨must, should⟩, fun ⟨must, should⟩ => ⟨must, should⟩⟩

theorem eq_of_toJson_eq (f g : BoolFilter) (finite : f.isFinite = true)
    (finite' : g.isFinite = true) (same : f.toJson = g.toJson) : f = g := by
  rw [isFinite, Bool.and_eq_true] at finite finite'
  rw [toJson_eq, toJson_eq, Clause.single_eq_iff] at same
  have branches : f.parts = g.parts :=
    QueryDocument.given_injOn rfl f.distinct_parts (Json.object.inj same.2)
  simp only [parts, List.cons.injEq, Prod.mk.injEq, true_and, and_true] at branches
  obtain ⟨must, should⟩ := f
  obtain ⟨must', should'⟩ := g
  rw [branchValue_injOn must must' finite.1 finite'.1 branches.1,
    branchValue_injOn should should' finite.2 finite'.2 branches.2]

theorem faithful : Json.FaithfulOn isFinite toJson BoolFilter.Same :=
  ⟨toJson_same_iff, eq_of_toJson_eq⟩

end BoolFilter

namespace GroupAggregation

/-- The grouping itself. -/
def terms (field : String) : Json :=
  Clause.single "terms" (.object [("field", .string field), ("size", .ofUInt64 allBuckets)])

theorem toJson_eq (a : GroupAggregation) :
    a.toJson = match a.filter with
      | none => Clause.single bucketsName (terms a.field)
      | some f => Clause.single filteredName
          (.object [("filter", f.toJson), ("aggs", Clause.single bucketsName (terms a.field))]) :=
  rfl

theorem terms_same_iff (field field' : String) :
    (terms field).Same (terms field') ↔ field = field' := by
  simp [terms, Clause.single_same_iff, Json.MembersFound, Json.Members.find?,
    Json.ofUInt64_same_iff]

theorem terms_inj (field field' : String) : terms field = terms field' ↔ field = field' := by
  simp [terms, Clause.single_eq_iff]

/-- Whether a filter applies can be told from the name at the top. -/
theorem names_ne : bucketsName ≠ filteredName := by decide

theorem toJson_same_iff (a b : GroupAggregation) (finite : a.isFinite = true)
    (finite' : b.isFinite = true) : a.toJson.Same b.toJson ↔ a.Same b := by
  obtain ⟨field, filter⟩ := a
  obtain ⟨field', filter'⟩ := b
  rw [toJson_eq, toJson_eq]
  have parts : ∀ {f g}, Option.Rel BoolFilter.Same f g ∧ field = field' ↔
      Same ⟨field, f⟩ ⟨field', g⟩ :=
    ⟨fun ⟨filter, field⟩ => ⟨field, filter⟩, fun ⟨field, filter⟩ => ⟨filter, field⟩⟩
  rw [← parts]
  cases filter with
  | none =>
    cases filter' with
    | none => simp [Clause.single_same_iff, terms_same_iff]
    | some g => simp [Clause.single_same_iff, names_ne]
  | some f =>
    cases filter' with
    | none => simp [Clause.single_same_iff, names_ne.symm]
    | some g =>
      have written := BoolFilter.toJson_same_iff f g finite finite'
      simp [Clause.single_same_iff, terms_same_iff, Json.MembersFound, Json.Members.find?, written]

theorem eq_of_toJson_eq (a b : GroupAggregation) (finite : a.isFinite = true)
    (finite' : b.isFinite = true) (same : a.toJson = b.toJson) : a = b := by
  obtain ⟨field, filter⟩ := a
  obtain ⟨field', filter'⟩ := b
  rw [toJson_eq, toJson_eq] at same
  cases filter with
  | none =>
    cases filter' with
    | none => simpa [Clause.single_eq_iff, terms_inj] using same
    | some g => simp [Clause.single_eq_iff, names_ne] at same
  | some f =>
    cases filter' with
    | none => simp [Clause.single_eq_iff, names_ne.symm] at same
    | some g =>
      simp only [Clause.single_eq_iff, Json.object.injEq, List.cons.injEq, Prod.mk.injEq,
        terms_inj, true_and, and_true] at same
      obtain ⟨written, rfl⟩ := same
      rw [BoolFilter.eq_of_toJson_eq f g finite finite' written]

theorem faithful : Json.FaithfulOn isFinite toJson GroupAggregation.Same :=
  ⟨toJson_same_iff, eq_of_toJson_eq⟩

end GroupAggregation

/-- The buckets of a field, inside the filter if there is one. -/
def bucketsWithin (field : String) (filter : Option Json) : Json :=
  let buckets := Json.object [("group_by", .object
    [("terms", .object [("field", .string field), ("size", .ofUInt64 0)])])]
  match filter with
  | none => buckets
  | some filter => .object [("filtered", .object [("filter", filter), ("aggs", buckets)])]

theorem GroupAggregation.toJson_eq_bucketsWithin (a : GroupAggregation) :
    a.toJson = bucketsWithin a.field (a.filter.map BoolFilter.toJson) := by
  obtain ⟨field, filter⟩ := a
  cases filter <;> rfl

namespace QueryDocument

def parts (q : QueryDocument) : List (String × Option Json) :=
  [("filter", q.filter.map BoolFilter.toJson), ("from", some (.ofUInt64 q.offset)),
    ("size", some (.ofUInt64 q.size)), ("sort", q.sort),
    ("aggs", q.aggregation.map GroupAggregation.toJson)]

theorem distinct_parts (q : QueryDocument) : (q.parts.map Prod.fst).Nodup := by
  simp [parts]

theorem toJson_eq (q : QueryDocument) : q.toJson = .object (given q.parts) := by
  simp [toJson, given, parts, optionalMember]

theorem member?_toJson (q : QueryDocument) :
    q.toJson.member? "filter" = q.filter.map BoolFilter.toJson ∧
    q.toJson.member? "from" = some (.ofUInt64 q.offset) ∧
    q.toJson.member? "size" = some (.ofUInt64 q.size) ∧
    q.toJson.member? "sort" = q.sort ∧
    q.toJson.member? "aggs" = q.aggregation.map GroupAggregation.toJson := by
  simp [toJson_eq, Json.member?, parts, find?_given_cons, find?_given_nil]

theorem toJson_same_iff (q r : QueryDocument) (finite : q.isFinite = true)
    (finite' : r.isFinite = true) : q.toJson.Same r.toJson ↔ q.Same r := by
  rw [isFinite, Bool.and_eq_true] at finite finite'
  have names : q.parts.map Prod.fst = r.parts.map Prod.fst := rfl
  have each := given_same_iff names q.distinct_parts
  rw [toJson_eq, toJson_eq, each]
  simp only [parts, List.forall₂_cons, List.forall₂_nil_left_iff, and_true, Option.rel_some_some,
    Json.ofUInt64_same_iff, BoolFilter.faithful.map_same_iff _ _ finite.1 finite'.1,
    GroupAggregation.faithful.map_same_iff _ _ finite.2 finite'.2]
  exact ⟨fun ⟨filter, offset, size, sort, aggregation⟩ => ⟨filter, offset, size, sort, aggregation⟩,
    fun ⟨filter, offset, size, sort, aggregation⟩ => ⟨filter, offset, size, sort, aggregation⟩⟩

theorem eq_of_toJson_eq (q r : QueryDocument) (finite : q.isFinite = true)
    (finite' : r.isFinite = true) (same : q.toJson = r.toJson) : q = r := by
  rw [isFinite, Bool.and_eq_true] at finite finite'
  rw [toJson_eq, toJson_eq] at same
  have each : q.parts = r.parts := given_injOn rfl q.distinct_parts (Json.object.inj same)
  simp only [parts, List.cons.injEq, Prod.mk.injEq, true_and, and_true, Option.some.injEq,
    Json.ofUInt64_inj] at each
  obtain ⟨filter, offset, size, sort, aggregation⟩ := each
  obtain ⟨f, offset', size', sort', a⟩ := q
  obtain ⟨g, offset'', size'', sort'', b⟩ := r
  dsimp only at filter offset size sort aggregation
  subst offset size sort
  rw [BoolFilter.faithful.map_injOn f g finite.1 finite'.1 filter,
    GroupAggregation.faithful.map_injOn a b finite.2 finite'.2 aggregation]

end QueryDocument

/-! ## Bodies determine queries -/

theorem Clause.apart_of_form_ne {c d : Clause} (differ : c.form ≠ d.form) :
    c.toJson.Apart d.toJson :=
  ⟨fun same => differ (form_eq_of_toJson_eq same),
    fun same => differ (form_eq_of_toJson_same same)⟩

theorem GroupAggregation.apart_of_filtered (field field' : String) (f : BoolFilter) :
    (toJson ⟨field, some f⟩).Apart (toJson ⟨field', none⟩) := by
  constructor
  · simp [toJson_eq, Clause.single_eq_iff, names_ne.symm]
  · simp [toJson_eq, Clause.single_same_iff, names_ne.symm]

/-- The body determines the query, and so do the parts of it: whatever clauses are nested in it,
if every tolerance is finite, queries are the same exactly if their bodies are, and equal if these
are equal. In particular an order that is null is told from none, an empty filter from none, an
exact text from a fuzzy one, and buckets within a filter from buckets without. -/
theorem bodies_determine_queries :
    Json.FaithfulOn Clause.isFinite Clause.toJson Clause.Same ∧
    Json.FaithfulOn BoolFilter.isFinite BoolFilter.toJson BoolFilter.Same ∧
    Json.FaithfulOn GroupAggregation.isFinite GroupAggregation.toJson GroupAggregation.Same ∧
    Json.FaithfulOn QueryDocument.isFinite QueryDocument.toJson QueryDocument.Same ∧
    (∀ q : QueryDocument,
      { q with sort := some .null }.toJson.Apart { q with sort := none }.toJson) ∧
    (∀ q : QueryDocument,
      { q with filter := some {} }.toJson.Apart { q with filter := none }.toJson) ∧
    (∀ field value field' value' fuzziness,
      (Clause.exactText field value).toJson.Apart
        (Clause.fuzzyText field' value' fuzziness).toJson) ∧
    (∀ field field' f, (GroupAggregation.toJson ⟨field, some f⟩).Apart
      (GroupAggregation.toJson ⟨field', none⟩)) := by
  refine ⟨⟨Clause.toJson_same_iff, Clause.eq_of_toJson_eq⟩, BoolFilter.faithful,
    GroupAggregation.faithful, ⟨QueryDocument.toJson_same_iff, QueryDocument.eq_of_toJson_eq⟩,
    fun q => ?_, fun q => ?_, fun _ _ _ _ _ => ?_, GroupAggregation.apart_of_filtered⟩
  · exact Json.apart_of_member? "sort" (by simp [QueryDocument.member?_toJson])
      (QueryDocument.member?_toJson _).2.2.2.1
  · exact Json.apart_of_member? "filter" (by simp [QueryDocument.member?_toJson])
      (QueryDocument.member?_toJson _).1
  · exact Clause.apart_of_form_ne (by simp [Clause.form])

/-- Neither young nor called something like this, in a group with one that never holds. -/
def grownOrUnnamed (bounds : Json.Members) (fuzziness : Finite64) : QueryDocument where
  filter := some { should := [.negated (.anyOf
    [.range "age" bounds, .fuzzyText "name" (.string "simba") (.finite fuzziness), .anyOf []])] }
  offset := 0
  size := 25
  sort := some .null

/-- Bounds in another order and a zero with its sign make a different body, of the same query. -/
theorem grownOrUnnamed_same :
    let q := grownOrUnnamed [("gte", .ofUInt64 1), ("lt", .ofUInt64 3)] (.zero false)
    let r := grownOrUnnamed [("lt", .ofUInt64 3), ("gte", .ofUInt64 1)] (.zero true)
    q.isFinite = true ∧ r.isFinite = true ∧ q.toJson ≠ r.toJson ∧ q.toJson.Same r.toJson ∧
      q.Same r := by
  intro q r
  have same : q.Same r := by
    refine ⟨.some ⟨trivial, ⟨⟨rfl, rfl, ?_⟩, ⟨rfl, rfl, rfl⟩, trivial, trivial⟩, trivial⟩, rfl, rfl,
      .some trivial, .none⟩
    exact ⟨⟨_, rfl, rfl⟩, ⟨_, rfl, rfl⟩, trivial⟩
  obtain ⟨-, -, -, queries, -⟩ := bodies_determine_queries
  refine ⟨rfl, rfl, by decide, (queries.same_iff q r rfl rfl).mpr same, same⟩

end DocSearch
