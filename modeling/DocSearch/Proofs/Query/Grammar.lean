import DocSearch.Proofs.Result
import DocSearch.Query.Compile

/-!
# The grammar of filters

Which values the fields of a filter may have, and the clauses they become. Compiling succeeds
exactly if every field of every filter has such a value, and then gives the clauses of all fields,
each filter on its branch, in the order of filters and fields.
-/
namespace DocSearch

/-- Strings, numbers and booleans. -/
def Json.isScalar : Json → Bool
  | .string _ | .number _ | .bool _ => true
  | .null | .array _ | .object _ => false

/-- A sequence that holds something, and scalars only. -/
def Json.isScalarSequence : Json → Bool
  | .array items => !items.isEmpty && items.all Json.isScalar
  | _ => false

def Json.isObject : Json → Bool
  | .object _ => true
  | _ => false

/-- Whether a field of a filter of this kind may have the value. -/
def FilterKind.accepts : FilterKind → Json → Bool
  | .range, v => v.isObject
  | .oneOf, v => v.isScalarSequence
  | .term, v | .fuzzy, v | .exclude, v | .anywhere, v => v.isScalar || v.isScalarSequence

/-- Whether all fields of a filter may have their values. -/
def Filter.isAccepted (f : Filter) : Bool := f.fields.all fun m => f.kind.accepts m.2

namespace Compile

/-- The values of a field: the items of a sequence as they are, a string in lower case. -/
def values : Json → List Json
  | .array items => items
  | v => [lowerCased v]

/-- The clauses a field becomes if its value is accepted. -/
def block (kind : FilterKind) (fuzziness : Binary64) (field : String) (value : Json) :
    List Clause :=
  match kind with
  | .term => (values value).map (.term field)
  | .oneOf => [.terms field (values value)]
  | .range =>
    match value with
    | .object bounds => [.range field bounds]
    | _ => []
  | .fuzzy => (values value).map (Clause.exactOrFuzzy field · fuzziness)
  | .exclude => [.anyOf ((values value).map (Clause.notExact field))]
  | .anywhere => (values value).map .anywhere

/-- The clauses of all fields of a filter. -/
def blocks (fuzziness : Binary64) (f : Filter) : List Clause :=
  f.fields.flatMap fun m => block f.kind fuzziness m.1 m.2

/-- The clauses that filters put on a branch. -/
def branch (fuzziness : Binary64) (occurrence : Occurrence) (filters : List Filter) :
    List Clause :=
  (filters.filter (·.occurrence = occurrence)).flatMap (blocks fuzziness)

theorem checkScalar_eq_ok_iff (v : Json) : checkScalar v = .ok () ↔ v.isScalar = true := by
  cases v <;> simp [checkScalar, Json.isScalar]

theorem forM_checkScalar_eq_ok_iff (items : List Json) :
    items.forM checkScalar = .ok () ↔ items.all Json.isScalar = true := by
  induction items with
  | nil => simp [List.forM, pure, Except.pure]
  | cons v rest ih =>
    rw [List.forM, bind_eq_ok_iff, List.all_cons, Bool.and_eq_true, ← ih, ← checkScalar_eq_ok_iff]
    exact ⟨fun ⟨(), both⟩ => both, fun both => ⟨(), both⟩⟩

theorem checkItems_eq_ok_iff (items : List Json) :
    checkItems items = .ok () ↔ (Json.array items).isScalarSequence = true := by
  cases items with
  | nil => simp [checkItems, Json.isScalarSequence]
  | cons v rest =>
    have nonempty : checkItems (v :: rest) = (v :: rest).forM checkScalar := rfl
    rw [nonempty, forM_checkScalar_eq_ok_iff]
    simp [Json.isScalarSequence]

theorem textValues_eq_ok_iff (v : Json) (found : List Json) :
    textValues v = .ok found ↔
      (v.isScalar || v.isScalarSequence) = true ∧ found = values v := by
  cases v with
  | array items =>
    rw [textValues, bind_eq_ok_iff, Json.isScalar, Bool.false_or, ← checkItems_eq_ok_iff]
    exact ⟨fun ⟨(), checked, same⟩ => ⟨checked, (Except.ok.inj same).symm⟩,
      fun ⟨checked, same⟩ => ⟨(), checked, congrArg Except.ok same.symm⟩⟩
  | _ => simp [textValues, checkScalar, values, Json.isScalar, Json.isScalarSequence, bind,
      Except.bind, pure, Except.pure, eq_comm]

/-- A field is refused exactly if its value is not accepted. -/
theorem fieldClauses_eq_ok_iff (kind : FilterKind) (fuzziness : Binary64) (field : String)
    (value : Json) (clauses : List Clause) :
    fieldClauses kind fuzziness field value = .ok clauses ↔
      kind.accepts value = true ∧ clauses = block kind fuzziness field value := by
  have mapped : ∀ build : List Json → List Clause,
      (textValues value >>= fun found => pure (build found)) = .ok clauses ↔
        (value.isScalar || value.isScalarSequence) = true ∧ clauses = build (values value) := by
    intro build
    rw [bind_eq_ok_iff]
    constructor
    · intro given
      obtain ⟨found, read, same⟩ := given
      obtain ⟨accepted, rfl⟩ := (textValues_eq_ok_iff value found).mp read
      exact ⟨accepted, (Except.ok.inj same).symm⟩
    · intro given
      obtain ⟨accepted, rfl⟩ := given
      exact ⟨values value, (textValues_eq_ok_iff value _).mpr ⟨accepted, rfl⟩, rfl⟩
  cases kind with
  | term => exact mapped _
  | fuzzy => exact mapped _
  | exclude => exact mapped fun found => [.anyOf (found.map (Clause.notExact field))]
  | anywhere => exact mapped _
  | oneOf =>
    cases value with
    | array items =>
      rw [fieldClauses, bind_eq_ok_iff, FilterKind.accepts, ← checkItems_eq_ok_iff]
      exact ⟨fun ⟨(), checked, same⟩ => ⟨checked, (Except.ok.inj same).symm⟩,
        fun ⟨checked, same⟩ => ⟨(), checked, congrArg Except.ok same.symm⟩⟩
    | _ => simp [fieldClauses, FilterKind.accepts, Json.isScalarSequence]
  | range =>
    cases value <;> simp [fieldClauses, FilterKind.accepts, Json.isObject, block, eq_comm]

theorem go_eq_ok_iff (fuzziness : Binary64) (f : Filter) (fields : Json.Members)
    (clauses : List Clause) :
    filterClauses.go fuzziness f fields = .ok clauses ↔
      fields.all (fun m => f.kind.accepts m.2) = true ∧
        clauses = fields.flatMap fun m => block f.kind fuzziness m.1 m.2 := by
  induction fields generalizing clauses with
  | nil => simp [filterClauses.go, eq_comm]
  | cons m rest ih =>
    obtain ⟨field, value⟩ := m
    rw [filterClauses.go, List.all_cons, Bool.and_eq_true, List.flatMap_cons]
    cases compiled : fieldClauses f.kind fuzziness field value with
    | error fault =>
      have refused : f.kind.accepts value ≠ true := by
        intro accepted
        rw [(fieldClauses_eq_ok_iff f.kind fuzziness field value _).mpr ⟨accepted, rfl⟩] at compiled
        cases compiled
      simp [refused]
    | ok here =>
      obtain ⟨accepted, rfl⟩ := (fieldClauses_eq_ok_iff f.kind fuzziness field value _).mp compiled
      simp only [bind_eq_ok_iff, ih]
      constructor
      · intro given
        obtain ⟨later, ⟨all, rfl⟩, same⟩ := given
        exact ⟨⟨accepted, all⟩, (Except.ok.inj same).symm⟩
      · intro given
        obtain ⟨⟨-, all⟩, rfl⟩ := given
        exact ⟨_, ⟨all, rfl⟩, rfl⟩

theorem filterClauses_eq_ok_iff (fuzziness : Binary64) (f : Filter) (clauses : List Clause) :
    filterClauses fuzziness f = .ok clauses ↔
      f.isAccepted = true ∧ clauses = blocks fuzziness f :=
  go_eq_ok_iff fuzziness f f.fields clauses

theorem branch_cons (fuzziness : Binary64) (occurrence : Occurrence) (f : Filter)
    (filters : List Filter) :
    branch fuzziness occurrence (f :: filters) =
      (if f.occurrence = occurrence then blocks fuzziness f else []) ++
        branch fuzziness occurrence filters := by
  rw [branch, List.filter_cons]
  split <;> simp_all [branch]

end Compile

open Compile

/-- The filter of all clauses of the filters. -/
def BoolFilter.ofFilters (fuzziness : Binary64) (filters : List Filter) : BoolFilter :=
  { must := branch fuzziness .must filters, should := branch fuzziness .should filters }

theorem BoolFilter.compileFrom_eq_ok_iff (fuzziness : Binary64) (filters : List Filter)
    (f g : BoolFilter) :
    f.compileFrom fuzziness filters = .ok g ↔
      filters.all Filter.isAccepted = true ∧
        g = { must := f.must ++ branch fuzziness .must filters
              should := f.should ++ branch fuzziness .should filters } := by
  induction filters generalizing f with
  | nil => simp [compileFrom, branch, eq_comm]
  | cons filter rest ih =>
    rw [compileFrom, bind_eq_ok_iff, List.all_cons, Bool.and_eq_true, branch_cons, branch_cons]
    have extended : f.extend filter.occurrence (blocks fuzziness filter) =
        { must := f.must ++ (if filter.occurrence = .must then blocks fuzziness filter else [])
          should := f.should
            ++ (if filter.occurrence = .should then blocks fuzziness filter else []) } := by
      cases occurrence : filter.occurrence <;> simp [extend]
    constructor
    · intro given
      obtain ⟨clauses, compiled, later⟩ := given
      obtain ⟨accepted, rfl⟩ := (filterClauses_eq_ok_iff fuzziness filter clauses).mp compiled
      rw [extended, ih] at later
      simpa only [accepted, true_and, List.append_assoc] using later
    · intro given
      obtain ⟨⟨accepted, all⟩, same⟩ := given
      refine ⟨_, (filterClauses_eq_ok_iff fuzziness filter _).mpr ⟨accepted, rfl⟩, ?_⟩
      rw [extended, ih]
      simpa only [all, true_and, List.append_assoc] using same

/-- Filters compile exactly if all of them are accepted, and then to their clauses, if there are
any. -/
theorem BoolFilter.compile_eq_ok_iff (fuzziness : Binary64) (filters : List Filter)
    (filter : Option BoolFilter) :
    compile fuzziness filters = .ok filter ↔
      filters.all Filter.isAccepted = true ∧
        filter = if (ofFilters fuzziness filters).isEmpty then none
          else some (ofFilters fuzziness filters) := by
  simp only [compile, bind_eq_ok_iff, compileFrom_eq_ok_iff, List.nil_append]
  constructor
  · rintro ⟨f, ⟨all, rfl⟩, same⟩
    exact ⟨all, (Except.ok.inj same).symm⟩
  · rintro ⟨all, rfl⟩
    exact ⟨_, ⟨all, rfl⟩, rfl⟩

/-- Options compile exactly if all their filters are accepted, and then to this document. -/
theorem SearchOptions.compile_eq_ok_iff (o : SearchOptions) (q : QueryDocument) :
    o.compile = .ok q ↔
      o.filters.all Filter.isAccepted = true ∧
        q = { filter :=
                if (BoolFilter.ofFilters o.fuzziness o.filters).isEmpty then none
                else some (BoolFilter.ofFilters o.fuzziness o.filters)
              offset := pageOffset o.page o.pageSize, size := o.pageSize, sort := o.sort } := by
  rw [compile, bind_eq_ok_iff]
  simp only [BoolFilter.compile_eq_ok_iff]
  constructor
  · rintro ⟨filter, ⟨all, rfl⟩, built⟩
    exact ⟨all, (Except.ok.inj built).symm⟩
  · rintro ⟨all, rfl⟩
    exact ⟨_, ⟨all, rfl⟩, rfl⟩

/-- Aggregation options also need a field to group by, and their filters go to the aggregation. -/
theorem AggregationOptions.compile_eq_ok_iff (o : AggregationOptions) (q : QueryDocument) :
    o.compile = .ok q ↔
      o.filters.all Filter.isAccepted = true ∧
        ∃ field, o.groupBy = some field ∧ field ≠ "" ∧
          q = { offset := pageOffset o.page o.pageSize, size := o.pageSize
                aggregation := some {
                  field
                  filter :=
                    if (BoolFilter.ofFilters o.fuzziness o.filters).isEmpty then none
                    else some (BoolFilter.ofFilters o.fuzziness o.filters) } } := by
  have grouped : ∀ field, o.groupBy.filter (!·.isEmpty) = some field ↔
      o.groupBy = some field ∧ field ≠ "" := by
    intro field
    simp [Option.filter_eq_some_iff]
  rw [compile]
  constructor
  · intro compiled
    split at compiled
    · cases compiled
    next field given =>
      obtain ⟨groupBy, nonempty⟩ := (grouped field).mp given
      obtain ⟨filter, filtered, built⟩ := (bind_eq_ok_iff _ _ _).mp compiled
      obtain ⟨all, rfl⟩ := (BoolFilter.compile_eq_ok_iff _ _ _).mp filtered
      exact ⟨all, field, groupBy, nonempty, (Except.ok.inj built).symm⟩
  · rintro ⟨all, field, groupBy, nonempty, rfl⟩
    rw [(grouped field).mpr ⟨groupBy, nonempty⟩]
    exact (bind_eq_ok_iff _ _ _).mpr ⟨_, (BoolFilter.compile_eq_ok_iff _ _ _).mpr ⟨all, rfl⟩, rfl⟩

end DocSearch
