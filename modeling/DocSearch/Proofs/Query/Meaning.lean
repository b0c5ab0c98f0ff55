import DocSearch.Proofs.Query.Grammar
import Mathlib.Logic.Basic

/-!
# What filters mean

An interpretation says of one document which atomic conditions hold of it. It gives a meaning to
clauses, and another to options, which is stated on the mappings and does not go through clauses.
Compiling keeps it: the filter of the document holds exactly if the options are satisfied.
-/
namespace DocSearch

/-- Which atomic conditions hold of a document. -/
structure Interpretation where
  term : String → Json → Prop
  terms : String → List Json → Prop
  range : String → Json.Members → Prop
  exactText : String → Json → Prop
  fuzzyText : String → Json → Binary64 → Prop
  anywhere : Json → Prop

namespace Clause

mutual

def Holds (I : Interpretation) : Clause → Prop
  | .term field value => I.term field value
  | .terms field values => I.terms field values
  | .range field bounds => I.range field bounds
  | .exactText field value => I.exactText field value
  | .fuzzyText field value fuzziness => I.fuzzyText field value fuzziness
  | .anywhere value => I.anywhere value
  | .anyOf clauses => SomeHolds I clauses
  | .negated clause => ¬clause.Holds I

/-- One of the clauses holds. -/
def SomeHolds (I : Interpretation) : List Clause → Prop
  | [] => False
  | c :: rest => c.Holds I ∨ SomeHolds I rest

end

theorem someHolds_iff (I : Interpretation) (clauses : List Clause) :
    SomeHolds I clauses ↔ ∃ c ∈ clauses, c.Holds I := by
  induction clauses with
  | nil => simp [SomeHolds]
  | cons c rest ih => simp [SomeHolds, ih]

theorem exactOrFuzzy_holds_iff (I : Interpretation) (field : String) (value : Json)
    (fuzziness : Binary64) :
    (exactOrFuzzy field value fuzziness).Holds I ↔
      I.exactText field value ∨ I.fuzzyText field value fuzziness := by
  simp [exactOrFuzzy, Holds, SomeHolds]

theorem notExact_holds_iff (I : Interpretation) (field : String) (value : Json) :
    (notExact field value).Holds I ↔ ¬I.exactText field value := by
  simp [notExact, Holds]

end Clause

/-- All clauses of one branch hold, and one of the other, if it has any. -/
def BoolFilter.Holds (I : Interpretation) (f : BoolFilter) : Prop :=
  (∀ c ∈ f.must, c.Holds I) ∧ (f.should = [] ∨ ∃ c ∈ f.should, c.Holds I)

/-- Without a filter, everything is a hit. -/
def QueryDocument.Admits (I : Interpretation) (q : QueryDocument) : Prop :=
  ∀ f ∈ q.filter, f.Holds I

/-- The values that a field asks for: the items of a sequence as they are, and a text that stands
alone in lower case. -/
def Json.asked : Json → List Json
  | .array items => items
  | .string s => [.string (Case.lower s)]
  | v => [v]

/-- What a field of a filter demands on the branch on which everything has to hold. -/
def FilterKind.Demands (I : Interpretation) (fuzziness : Binary64) (field : String)
    (value : Json) : FilterKind → Prop
  | .term => ∀ v ∈ value.asked, I.term field v
  | .oneOf => I.terms field (value.asked)
  | .range => ∃ bounds, value = .object bounds ∧ I.range field bounds
  | .fuzzy => ∀ v ∈ value.asked, I.exactText field v ∨ I.fuzzyText field v fuzziness
  | .exclude => ∃ v ∈ value.asked, ¬I.exactText field v
  | .anywhere => ∀ v ∈ value.asked, I.anywhere v

/-- What a field of a filter offers on the branch on which something has to hold. -/
def FilterKind.Offers (I : Interpretation) (fuzziness : Binary64) (field : String)
    (value : Json) : FilterKind → Prop
  | .term => ∃ v ∈ value.asked, I.term field v
  | .oneOf => I.terms field (value.asked)
  | .range => ∃ bounds, value = .object bounds ∧ I.range field bounds
  | .fuzzy => ∃ v ∈ value.asked, I.exactText field v ∨ I.fuzzyText field v fuzziness
  | .exclude => ∃ v ∈ value.asked, ¬I.exactText field v
  | .anywhere => ∃ v ∈ value.asked, I.anywhere v

namespace Compile

variable (I : Interpretation) (fuzziness : Binary64)

theorem values_eq_asked (v : Json) : values v = v.asked := by
  cases v <;> rfl

theorem values_ne_nil {v : Json} (accepted : (v.isScalar || v.isScalarSequence) = true) :
    values v ≠ [] := by
  cases v with
  | array items =>
    intro same
    subst same
    simp [Json.isScalar, Json.isScalarSequence] at accepted
  | _ => simp [values]

/-- An accepted field is never compiled to nothing. -/
theorem block_ne_nil {kind : FilterKind} {field : String} {value : Json}
    (accepted : kind.accepts value = true) : block kind fuzziness field value ≠ [] := by
  cases kind with
  | term => simpa [block] using values_ne_nil accepted
  | fuzzy => simpa [block] using values_ne_nil accepted
  | anywhere => simpa [block] using values_ne_nil accepted
  | oneOf => simp [block]
  | exclude => simp [block]
  | range => cases value <;> simp_all [block, FilterKind.accepts, Json.isObject]

theorem block_all_iff {kind : FilterKind} {field : String} {value : Json}
    (accepted : kind.accepts value = true) :
    (∀ c ∈ block kind fuzziness field value, c.Holds I) ↔
      kind.Demands I fuzziness field value := by
  cases kind with
  | term => simp [block, values_eq_asked, FilterKind.Demands, Clause.Holds]
  | fuzzy => simp [block, values_eq_asked, FilterKind.Demands, Clause.exactOrFuzzy_holds_iff]
  | anywhere => simp [block, values_eq_asked, FilterKind.Demands, Clause.Holds]
  | oneOf => simp [block, values_eq_asked, FilterKind.Demands, Clause.Holds]
  | exclude =>
    simp [block, values_eq_asked, FilterKind.Demands, Clause.Holds, Clause.someHolds_iff,
      Clause.notExact_holds_iff]
  | range =>
    cases value <;>
      simp_all [block, FilterKind.Demands, FilterKind.accepts, Json.isObject, Clause.Holds]

theorem block_any_iff (kind : FilterKind) (field : String) (value : Json) :
    (∃ c ∈ block kind fuzziness field value, c.Holds I) ↔
      kind.Offers I fuzziness field value := by
  cases kind with
  | term => simp [block, values_eq_asked, FilterKind.Offers, Clause.Holds]
  | fuzzy => simp [block, values_eq_asked, FilterKind.Offers, Clause.exactOrFuzzy_holds_iff]
  | anywhere => simp [block, values_eq_asked, FilterKind.Offers, Clause.Holds]
  | oneOf => simp [block, values_eq_asked, FilterKind.Offers, Clause.Holds]
  | exclude =>
    simp [block, values_eq_asked, FilterKind.Offers, Clause.Holds, Clause.someHolds_iff,
      Clause.notExact_holds_iff]
  | range => cases value <;> simp [block, FilterKind.Offers, Clause.Holds]

theorem mem_branch_iff (occurrence : Occurrence) (filters : List Filter) (c : Clause) :
    c ∈ branch fuzziness occurrence filters ↔
      ∃ f ∈ filters, f.occurrence = occurrence ∧
        ∃ m ∈ f.fields, c ∈ block f.kind fuzziness m.1 m.2 := by
  simp only [branch, blocks, List.mem_flatMap, List.mem_filter, decide_eq_true_eq, and_assoc]

end Compile

/-- The filters in use are the mappings that are present. -/
theorem SearchOptions.mem_filters_iff (o : SearchOptions) (f : Filter) :
    f ∈ o.filters ↔ (o.branches f.kind).get f.occurrence = some f.fields := by
  obtain ⟨kind, occurrence, fields⟩ := f
  have every : kind ∈ FilterKind.all := by cases kind <;> decide
  simp only [filters, List.mem_flatMap, Filter.ofBranches, List.mem_append, Option.mem_toList,
    Option.map_eq_some_iff, Filter.mk.injEq]
  constructor
  · rintro ⟨_, -, ⟨fields', found, rfl, rfl, rfl⟩ | ⟨fields', found, rfl, rfl, rfl⟩⟩
    · exact found
    · exact found
  · intro found
    refine ⟨kind, every, ?_⟩
    cases occurrence with
    | must => exact Or.inl ⟨fields, found, rfl, rfl, rfl⟩
    | should => exact Or.inr ⟨fields, found, rfl, rfl, rfl⟩

/-- The filter made of accepted filters, in terms of what their fields demand and offer. -/
theorem BoolFilter.ofFilters_holds_iff (I : Interpretation) (fuzziness : Binary64)
    (filters : List Filter) (accepted : filters.all Filter.isAccepted = true) :
    (ofFilters fuzziness filters).Holds I ↔
      (∀ f ∈ filters, f.occurrence = .must →
        ∀ m ∈ f.fields, f.kind.Demands I fuzziness m.1 m.2) ∧
      ((∀ f ∈ filters, f.occurrence = .should → f.fields = []) ∨
        ∃ f ∈ filters, f.occurrence = .should ∧
          ∃ m ∈ f.fields, f.kind.Offers I fuzziness m.1 m.2) := by
  have fits : ∀ f ∈ filters, ∀ m ∈ f.fields, f.kind.accepts m.2 = true := by
    intro f member m field
    exact List.all_eq_true.mp (List.all_eq_true.mp accepted f member) m field
  have demanded : (∀ c ∈ Compile.branch fuzziness .must filters, c.Holds I) ↔
      ∀ f ∈ filters, f.occurrence = .must →
        ∀ m ∈ f.fields, f.kind.Demands I fuzziness m.1 m.2 := by
    constructor
    · intro all f member onBranch m field
      rw [← Compile.block_all_iff I fuzziness (fits f member m field)]
      intro c produced
      exact all c ((Compile.mem_branch_iff fuzziness _ filters c).mpr
        ⟨f, member, onBranch, m, field, produced⟩)
    · intro all c produced
      obtain ⟨f, member, onBranch, m, field, produced⟩ :=
        (Compile.mem_branch_iff fuzziness _ filters c).mp produced
      exact (Compile.block_all_iff I fuzziness (fits f member m field)).mpr
        (all f member onBranch m field) c produced
  -- an empty branch could mean "anything" where something was asked for
  have empty : Compile.branch fuzziness .should filters = [] ↔
      ∀ f ∈ filters, f.occurrence = .should → f.fields = [] := by
    rw [List.eq_nil_iff_forall_not_mem]
    constructor
    · intro none f member onBranch
      rw [List.eq_nil_iff_forall_not_mem]
      intro m field
      have filled : Compile.block f.kind fuzziness m.1 m.2 ≠ [] :=
        Compile.block_ne_nil fuzziness (fits f member m field)
      obtain ⟨c, produced⟩ := List.exists_mem_of_ne_nil _ filled
      exact none c ((Compile.mem_branch_iff fuzziness _ filters c).mpr
        ⟨f, member, onBranch, m, field, produced⟩)
    · intro none c produced
      obtain ⟨f, member, onBranch, m, field, -⟩ :=
        (Compile.mem_branch_iff fuzziness _ filters c).mp produced
      rw [none f member onBranch] at field
      cases field
  have offered : (∃ c ∈ Compile.branch fuzziness .should filters, c.Holds I) ↔
      ∃ f ∈ filters, f.occurrence = .should ∧
        ∃ m ∈ f.fields, f.kind.Offers I fuzziness m.1 m.2 := by
    constructor
    · intro given
      obtain ⟨c, produced, holds⟩ := given
      obtain ⟨f, member, onBranch, m, field, produced⟩ :=
        (Compile.mem_branch_iff fuzziness _ filters c).mp produced
      exact ⟨f, member, onBranch, m, field,
        (Compile.block_any_iff I fuzziness f.kind m.1 m.2).mp ⟨c, produced, holds⟩⟩
    · intro given
      obtain ⟨f, member, onBranch, m, field, holds⟩ := given
      obtain ⟨c, produced, holds⟩ :=
        (Compile.block_any_iff I fuzziness f.kind m.1 m.2).mpr holds
      exact ⟨c, (Compile.mem_branch_iff fuzziness _ filters c).mpr
        ⟨f, member, onBranch, m, field, produced⟩, holds⟩
  rw [Holds, ofFilters, demanded, empty, offered]

/-- Every field on the one branch gets what it demands, and if there is a field on the other, one
of these gets what it offers. -/
def SearchOptions.Satisfied (I : Interpretation) (o : SearchOptions) : Prop :=
  (∀ kind fields, (o.branches kind).must = some fields →
    ∀ m ∈ fields, kind.Demands I o.fuzziness m.1 m.2) ∧
  ((∀ kind fields, (o.branches kind).should = some fields → fields = []) ∨
    ∃ kind fields, (o.branches kind).should = some fields ∧
      ∃ m ∈ fields, kind.Offers I o.fuzziness m.1 m.2)

/-- Under every interpretation, the compiled document admits what satisfies the options. -/
theorem SearchOptions.compile_preserves_meaning (o : SearchOptions) (q : QueryDocument)
    (compiled : o.compile = .ok q) (I : Interpretation) : q.Admits I ↔ o.Satisfied I := by
  obtain ⟨accepted, rfl⟩ := (o.compile_eq_ok_iff q).mp compiled
  have admits : (∀ f ∈ (if (BoolFilter.ofFilters o.fuzziness o.filters).isEmpty then none
        else some (BoolFilter.ofFilters o.fuzziness o.filters)), BoolFilter.Holds I f) ↔
      (BoolFilter.ofFilters o.fuzziness o.filters).Holds I := by
    split
    next isEmpty =>
      rw [BoolFilter.isEmpty, Bool.and_eq_true, List.isEmpty_iff, List.isEmpty_iff] at isEmpty
      simp [BoolFilter.Holds, isEmpty.1, isEmpty.2]
    next => simp
  rw [QueryDocument.Admits, admits, BoolFilter.ofFilters_holds_iff I o.fuzziness o.filters accepted]
  constructor
  · intro given
    obtain ⟨demanded, offered⟩ := given
    refine ⟨fun kind fields present => ?_, offered.imp (fun none kind fields present => ?_) ?_⟩
    · exact demanded ⟨kind, .must, fields⟩ ((o.mem_filters_iff _).mpr present) rfl
    · exact none ⟨kind, .should, fields⟩ ((o.mem_filters_iff _).mpr present) rfl
    · intro given
      obtain ⟨⟨kind, _, fields⟩, member, rfl, offer⟩ := given
      exact ⟨kind, fields, (o.mem_filters_iff _).mp member, offer⟩
  · intro given
    obtain ⟨demanded, offered⟩ := given
    refine ⟨?_, offered.imp (fun none => ?_) ?_⟩
    · rintro ⟨kind, _, fields⟩ member rfl
      exact demanded kind fields ((o.mem_filters_iff _).mp member)
    · rintro ⟨kind, _, fields⟩ member rfl
      exact none kind fields ((o.mem_filters_iff _).mp member)
    · intro given
      obtain ⟨kind, fields, present, offer⟩ := given
      exact ⟨⟨kind, .should, fields⟩, (o.mem_filters_iff _).mpr present, rfl, offer⟩

/-- Not both of two names, and the species or something like it. -/
def namedApart : SearchOptions :=
  (({} : SearchOptions).withFilter .exclude .must "name"
      (.array [.string "Simba", .string "Nala"])).withFilter .fuzzy .should "species"
    (.string "LION")

/-- A document in which only one field is looked at, and matches any text there. -/
def matchesIn (field : String) : Interpretation where
  term _ _ := False
  terms _ _ := False
  range _ _ := False
  exactText f _ := f = field
  fuzzyText _ _ _ := False
  anywhere _ := False

/-- A document of the species is a hit, one with both names is not. -/
theorem namedApart_admits :
    ∃ q, namedApart.compile = .ok q ∧ q.Admits (matchesIn "species") ∧
      ¬q.Admits (matchesIn "name") := by
  have compiled := (namedApart.compile_eq_ok_iff _).mpr ⟨by decide, rfl⟩
  refine ⟨_, compiled, ?_, ?_⟩
  · rw [namedApart.compile_preserves_meaning _ compiled]
    refine ⟨?_, Or.inr ⟨.fuzzy, _, rfl, ("species", .string "LION"), List.mem_singleton_self _, ?_⟩⟩
    · intro kind fields present m field
      cases kind with
      | exclude =>
        cases present
        cases List.mem_singleton.mp field
        exact ⟨.string "Simba", List.mem_cons_self, by simp [matchesIn]⟩
      | _ => cases present
    · exact ⟨_, List.mem_singleton_self _, Or.inl rfl⟩
  · rw [namedApart.compile_preserves_meaning _ compiled]
    intro given
    obtain ⟨demanded, -⟩ := given
    obtain ⟨v, -, unmatched⟩ := demanded .exclude _ rfl
      ("name", .array [.string "Simba", .string "Nala"]) (List.mem_singleton_self _)
    exact unmatched rfl

end DocSearch
