import DocSearch.Proofs.Query.FieldChange
import DocSearch.Proofs.Text.Case

/-!
# The case of single texts

Under a field whose text is matched, a single text stands for its lower case, and for the sequence
of that lower case alone. Options stay what they are to the backend when the one is written for
the other, in one field or in many: they compile to the same document, or are refused for the same
reason. The items of a sequence are searched for as they were given.
-/
namespace DocSearch

/-! ## Fields that differ in case -/

namespace FilterKind

/-- The kinds that match texts. -/
def matchesText : FilterKind → Bool
  | .term | .fuzzy | .exclude | .anywhere => true
  | .oneOf | .range => false

/-- A value, and what may be written for it: for a single text its lower case, alone or as the only
item of a sequence. -/
inductive Lowers (kind : FilterKind) : Json → Json → Prop
  | kept (v : Json) : Lowers kind v v
  | scalar (matched : kind.matchesText = true) (s : String) :
      Lowers kind (.string s) (.string (Case.lower s))
  | sequence (matched : kind.matchesText = true) (s : String) :
      Lowers kind (.string s) (.array [.string (Case.lower s)])

/-- The same fields, and for each value what may be written for it. -/
def LowersFields (kind : FilterKind) : Json.Members → Json.Members → Prop :=
  List.Forall₂ fun m m' => m.1 = m'.1 ∧ kind.Lowers m.2 m'.2

end FilterKind

/-- The branches that are there are the same, field by field. -/
def Branches.Lowers (kind : FilterKind) (b b' : Branches) : Prop :=
  ∀ occurrence, Option.Rel kind.LowersFields (b.get occurrence) (b'.get occurrence)

/-- Options that differ in the case of single texts only. -/
structure SearchOptions.Lowers (o o' : SearchOptions) : Prop where
  branches : ∀ kind, Branches.Lowers kind (o.branches kind) (o'.branches kind)
  fuzziness : o'.fuzziness = o.fuzziness
  sort : o'.sort = o.sort
  pageSize : o'.pageSize = o.pageSize
  page : o'.page = o.page

structure AggregationOptions.Lowers (o o' : AggregationOptions) : Prop where
  term : Branches.Lowers .term o.term o'.term
  range : Branches.Lowers .range o.range o'.range
  fuzzy : Branches.Lowers .fuzzy o.fuzzy o'.fuzzy
  fuzziness : o'.fuzziness = o.fuzziness
  groupBy : o'.groupBy = o.groupBy
  pageSize : o'.pageSize = o.pageSize
  page : o'.page = o.page

/-- The same kind of filter on the same branch. -/
structure Filter.Lowers (f f' : Filter) : Prop where
  kind : f'.kind = f.kind
  occurrence : f'.occurrence = f.occurrence
  fields : f.kind.LowersFields f.fields f'.fields

/-! ## What compiling makes of them -/

namespace Compile

theorem fieldClauses_of_lowers {kind : FilterKind} {v v' : Json} (lowered : kind.Lowers v v')
    (fuzziness : Binary64) (field : String) :
    fieldClauses kind fuzziness field v' = fieldClauses kind fuzziness field v := by
  have same (matched : kind.matchesText = true) (read : textValues v' = textValues v) :
      fieldClauses kind fuzziness field v' = fieldClauses kind fuzziness field v := by
    cases kind with
    | oneOf | range => cases matched
    | _ => simp only [fieldClauses, read]
  cases lowered with
  | kept => rfl
  | scalar matched s =>
    refine same matched ?_
    simp only [textValues, lowerCased, Case.lower_lower]
    rfl
  | sequence matched s => exact same matched rfl

/-- Faults name the filter and the field, which are the same. -/
theorem go_of_lowers (fuzziness : Binary64) {f f' : Filter} (kind : f'.kind = f.kind)
    (occurrence : f'.occurrence = f.occurrence) {fields fields' : Json.Members}
    (lowered : f.kind.LowersFields fields fields') :
    filterClauses.go fuzziness f' fields' = filterClauses.go fuzziness f fields := by
  induction lowered with
  | nil => rfl
  | @cons m m' rest rest' here later ih =>
    obtain ⟨name, value⟩ := here
    rw [filterClauses.go, filterClauses.go, ih, kind, ← name, fieldClauses_of_lowers value,
      Filter.key, Filter.key, kind, occurrence]

theorem filterClauses_of_lowers (fuzziness : Binary64) {f f' : Filter} (lowered : f.Lowers f') :
    filterClauses fuzziness f' = filterClauses fuzziness f :=
  go_of_lowers fuzziness lowered.kind lowered.occurrence lowered.fields

end Compile

namespace BoolFilter

theorem compileFrom_of_lowers (fuzziness : Binary64) {filters filters' : List Filter}
    (lowered : List.Forall₂ Filter.Lowers filters filters') (f : BoolFilter) :
    f.compileFrom fuzziness filters' = f.compileFrom fuzziness filters := by
  induction lowered generalizing f with
  | nil => rfl
  | cons here later ih =>
    rw [compileFrom, compileFrom, Compile.filterClauses_of_lowers fuzziness here, here.occurrence]
    simp only [ih]

theorem compile_of_lowers (fuzziness : Binary64) {filters filters' : List Filter}
    (lowered : List.Forall₂ Filter.Lowers filters filters') :
    compile fuzziness filters' = compile fuzziness filters := by
  rw [compile, compile, compileFrom_of_lowers fuzziness lowered]

end BoolFilter

theorem Branches.Lowers.ofBranches {kind : FilterKind} {b b' : Branches}
    (lowered : Branches.Lowers kind b b') :
    List.Forall₂ Filter.Lowers (Filter.ofBranches kind b) (Filter.ofBranches kind b') := by
  have one (occurrence : Occurrence) : List.Forall₂ Filter.Lowers
      ((b.get occurrence).map (⟨kind, occurrence, ·⟩)).toList
      ((b'.get occurrence).map (⟨kind, occurrence, ·⟩)).toList := by
    have related := lowered occurrence
    generalize b.get occurrence = fields, b'.get occurrence = fields' at related
    cases related with
    | none => exact .nil
    | some fields => exact .cons ⟨rfl, rfl, fields⟩ .nil
  exact List.rel_append (one .must) (one .should)

theorem SearchOptions.Lowers.filters {o o' : SearchOptions} (lowered : o.Lowers o') :
    List.Forall₂ Filter.Lowers o.filters o'.filters := by
  rw [SearchOptions.filters, SearchOptions.filters]
  induction FilterKind.all with
  | nil => exact .nil
  | cons kind kinds ih => exact List.rel_append (lowered.branches kind).ofBranches ih

theorem SearchOptions.compile_of_lowers {o o' : SearchOptions} (lowered : o.Lowers o') :
    o'.compile = o.compile := by
  rw [compile, compile, lowered.fuzziness, BoolFilter.compile_of_lowers _ lowered.filters,
    lowered.page, lowered.pageSize, lowered.sort]

theorem AggregationOptions.Lowers.filters {o o' : AggregationOptions} (lowered : o.Lowers o') :
    List.Forall₂ Filter.Lowers o.filters o'.filters :=
  List.rel_append (List.rel_append lowered.term.ofBranches lowered.range.ofBranches)
    lowered.fuzzy.ofBranches

theorem AggregationOptions.compile_of_lowers {o o' : AggregationOptions}
    (lowered : o.Lowers o') : o'.compile = o.compile := by
  rw [compile, compile, lowered.fuzziness, BoolFilter.compile_of_lowers _ lowered.filters,
    lowered.page, lowered.pageSize, lowered.groupBy]

/-! ## Sequences -/

/-- The clauses of texts that are taken as they are. -/
def FilterKind.textClauses (kind : FilterKind) (fuzziness : Binary64) (field : String)
    (items : List Json) : List Clause :=
  match kind with
  | .term => items.map (.term field)
  | .fuzzy => items.map (Clause.exactOrFuzzy field · fuzziness)
  | .exclude => [.anyOf (items.map (Clause.notExact field))]
  | .anywhere => items.map .anywhere
  | .oneOf | .range => []

/-- Where a filter that matches texts has a sequence, its branch has the clauses of the items as
they are, behind those of the fields before it and ahead of those of the fields after it. -/
def KeepsSequences (fuzziness : Binary64) (filters : List Filter)
    (compiled : Option BoolFilter) : Prop :=
  ∀ front kind occurrence before field items after back,
    filters = front ++ ⟨kind, occurrence, before ++ (field, .array items) :: after⟩ :: back →
    kind.matchesText = true →
    BoolFilter.clauses compiled occurrence =
      Compile.branch fuzziness occurrence front ++
        (Compile.blocks fuzziness ⟨kind, occurrence, before⟩ ++
          kind.textClauses fuzziness field items ++
          Compile.blocks fuzziness ⟨kind, occurrence, after⟩) ++
        Compile.branch fuzziness occurrence back

theorem Compile.branch_append_cons (fuzziness : Binary64) {occurrence : Occurrence}
    (front back : List Filter) {f : Filter} (here : f.occurrence = occurrence) :
    branch fuzziness occurrence (front ++ f :: back) =
      branch fuzziness occurrence front ++ blocks fuzziness f ++
        branch fuzziness occurrence back := by
  simp [branch, List.filter_append, here]

theorem keepsSequences (fuzziness : Binary64) (filters : List Filter) :
    KeepsSequences fuzziness filters
      (if (BoolFilter.ofFilters fuzziness filters).isEmpty then none
        else some (BoolFilter.ofFilters fuzziness filters)) := by
  rintro front kind occurrence before field items after back rfl matched
  have block : Compile.block kind fuzziness field (.array items) =
      kind.textClauses fuzziness field items := by
    cases kind with
    | oneOf | range => cases matched
    | _ => rfl
  have here : Filter.occurrence ⟨kind, occurrence, before ++ (field, .array items) :: after⟩ =
      occurrence := rfl
  rw [BoolFilter.clauses_of_filters, Compile.branch_append_cons fuzziness front back here,
    Compile.blocks_append_cons, block]

/-- Lower case is final, and a single text stands for its lower case. Writing a text of a field
that is matched as text in lower case, or as the sequence of its lower case alone, changes nothing
about what the options compile to, neither the document nor the fault; and where a sequence is
given, the clauses have its items as they are. -/
theorem single_texts_stand_for_lower_case :
    (∀ s : String, Case.lower (Case.lower s) = Case.lower s) ∧
    (∀ o o' : SearchOptions, o.Lowers o' → o'.compile = o.compile) ∧
    (∀ o o' : AggregationOptions, o.Lowers o' → o'.compile = o.compile) ∧
    (∀ (o : SearchOptions) (q : QueryDocument), o.compile = .ok q →
      KeepsSequences o.fuzziness o.filters q.filter) ∧
    (∀ (o : AggregationOptions) (q : QueryDocument), o.compile = .ok q →
      KeepsSequences o.fuzziness o.filters (q.aggregation.bind (·.filter))) := by
  refine ⟨Case.lower_lower, fun o o' => SearchOptions.compile_of_lowers,
    fun o o' => AggregationOptions.compile_of_lowers, fun o q compiled => ?_,
    fun o q compiled => ?_⟩
  · obtain ⟨-, rfl⟩ := (o.compile_eq_ok_iff q).mp compiled
    exact keepsSequences o.fuzziness o.filters
  · obtain ⟨-, field, -, -, rfl⟩ := (o.compile_eq_ok_iff q).mp compiled
    exact keepsSequences o.fuzziness o.filters

/-- Fields as they may be typed. -/
def shoutedSigma : Json.Members :=
  [("species", .string "ΚΥΩΝ ΛΥΚΟΣ"), ("name", .array [.string "Simba"])]

/-- The first of them as a sequence, in lower case and with the sigma of the end of a word. -/
def quietSigma : Json.Members :=
  [("species", .array [.string "κυων λυκος"]), ("name", .array [.string "Simba"])]

theorem shoutedSigma_lowered : FilterKind.fuzzy.LowersFields shoutedSigma quietSigma := by
  have lower : Case.lower "ΚΥΩΝ ΛΥΚΟΣ" = "κυων λυκος" := by decide +kernel
  have species : FilterKind.fuzzy.Lowers (.string "ΚΥΩΝ ΛΥΚΟΣ") (.array [.string "κυων λυκος"]) :=
    lower ▸ .sequence rfl "ΚΥΩΝ ΛΥΚΟΣ"
  exact .cons ⟨rfl, species⟩ (.cons ⟨rfl, .kept _⟩ .nil)

/-- Both ways of typing search for the same, and the name is searched for as it is. -/
theorem shoutedSigma_stands_for_quietSigma :
    let o : SearchOptions := { fuzzy := { must := some shoutedSigma } }
    let o' : SearchOptions := { fuzzy := { must := some quietSigma } }
    let a : AggregationOptions := { fuzzy := { should := some shoutedSigma }, groupBy := some "sex" }
    let a' : AggregationOptions := { fuzzy := { should := some quietSigma }, groupBy := some "sex" }
    o'.compile = o.compile ∧ a'.compile = a.compile ∧
      (∃ q, o'.compile = .ok q ∧ BoolFilter.clauses q.filter .must =
        [Clause.exactOrFuzzy "species" (.string "κυων λυκος") o.fuzziness,
          Clause.exactOrFuzzy "name" (.string "Simba") o.fuzziness]) ∧
      ∃ q b, a'.compile = .ok q ∧ q.aggregation = some b ∧
        BoolFilter.clauses b.filter .should =
          [Clause.exactOrFuzzy "species" (.string "κυων λυκος") a.fuzziness,
            Clause.exactOrFuzzy "name" (.string "Simba") a.fuzziness] := by
  intro o o' a a'
  obtain ⟨-, searches, aggregations, kept, grouped⟩ := single_texts_stand_for_lower_case
  have none (kind : FilterKind) : Branches.Lowers kind {} {} := fun occurrence => by
    cases occurrence <;> exact .none
  have search : o.Lowers o' := by
    refine ⟨fun kind => ?_, rfl, rfl, rfl, rfl⟩
    cases kind with
    | fuzzy =>
      rintro (_ | _)
      · exact .some shoutedSigma_lowered
      · exact .none
    | _ => exact none _
  have aggregation : a.Lowers a' := by
    refine ⟨none _, none _, ?_, rfl, rfl, rfl, rfl⟩
    rintro (_ | _)
    · exact .none
    · exact .some shoutedSigma_lowered
  have found := (o'.compile_eq_ok_iff _).mpr ⟨by decide, rfl⟩
  have counted := (a'.compile_eq_ok_iff _).mpr ⟨by decide, "sex", rfl, by decide, rfl⟩
  refine ⟨searches o o' search, aggregations a a' aggregation, ⟨_, found, ?_⟩,
    ⟨_, _, counted, rfl, ?_⟩⟩
  · exact kept o' _ found [] .fuzzy .must [] "species" [.string "κυων λυκος"]
      [("name", .array [.string "Simba"])] [] rfl rfl
  · exact grouped a' _ counted [] .fuzzy .should [] "species" [.string "κυων λυκος"]
      [("name", .array [.string "Simba"])] [] rfl rfl

end DocSearch
