import DocSearch.Proofs.Query.Grammar

/-!
# How options are refused

Options are read kind by kind, what has to hold before what should, and the fields of a mapping in
their order. Compiling stops at the first field whose value is not accepted; the error names the
option and the field, and its fault is the first defect of the value. In a sequence that is its
emptiness, or else the first item that is no scalar.
-/
namespace DocSearch

/-! ## Defects -/

/-- What is wrong with a value that is no scalar. -/
inductive Json.ScalarDefect : Json → ClauseFault → Prop
  | null : ScalarDefect .null .nullValue
  | array (items : List Json) : ScalarDefect (.array items) (.notScalar (.array items))
  | object (members : Members) : ScalarDefect (.object members) (.notScalar (.object members))

/-- What is wrong with a sequence of scalars first. -/
inductive SequenceDefect : List Json → ClauseFault → Prop
  | empty : SequenceDefect [] .emptySequence
  | item {items : List Json} {fault : ClauseFault}
      (first : FailsFirst (fun v => v.isScalar = true) Json.ScalarDefect items fault) :
      SequenceDefect items fault

def Json.isSequence : Json → Bool
  | .array _ => true
  | _ => false

/-- What is wrong with the value of a field of a filter first. -/
inductive FilterKind.FirstDefect : FilterKind → Json → ClauseFault → Prop
  | sequence {kind : FilterKind} {items : List Json} {fault : ClauseFault}
      (listed : kind ≠ .range) (defect : SequenceDefect items fault) :
      FirstDefect kind (.array items) fault
  | scalar {kind : FilterKind} {v : Json} {fault : ClauseFault}
      (text : kind ≠ .range ∧ kind ≠ .oneOf) (single : v.isSequence = false)
      (defect : v.ScalarDefect fault) : FirstDefect kind v fault
  | noSequence {v : Json} (single : v.isSequence = false) : FirstDefect .oneOf v (.notSequence v)
  | noBounds {v : Json} (other : v.isObject = false) : FirstDefect .range v (.notBounds v)

namespace FilterKind

variable (v : Json) (fault : ClauseFault)

theorem firstDefect_text_iff (kind : FilterKind) (text : kind ≠ .range ∧ kind ≠ .oneOf) :
    kind.FirstDefect v fault ↔ (∃ items, v = .array items ∧ SequenceDefect items fault) ∨
      (v.isSequence = false ∧ v.ScalarDefect fault) := by
  constructor
  · rintro (⟨-, defect⟩ | ⟨-, single, defect⟩ | _ | _)
    · exact .inl ⟨_, rfl, defect⟩
    · exact .inr ⟨single, defect⟩
    · exact absurd rfl text.2
    · exact absurd rfl text.1
  · rintro (⟨items, rfl, defect⟩ | ⟨single, defect⟩)
    · exact .sequence text.1 defect
    · exact .scalar text single defect

theorem firstDefect_oneOf_iff :
    FirstDefect .oneOf v fault ↔ (∃ items, v = .array items ∧ SequenceDefect items fault) ∨
      (v.isSequence = false ∧ fault = .notSequence v) := by
  constructor
  · rintro (⟨-, defect⟩ | ⟨text, -, -⟩ | single)
    · exact .inl ⟨_, rfl, defect⟩
    · exact absurd rfl text.2
    · exact .inr ⟨single, rfl⟩
  · rintro (⟨items, rfl, defect⟩ | ⟨single, rfl⟩)
    · exact .sequence (by decide) defect
    · exact .noSequence single

theorem firstDefect_range_iff :
    FirstDefect .range v fault ↔ v.isObject = false ∧ fault = .notBounds v := by
  constructor
  · rintro (⟨listed, -⟩ | ⟨text, -, -⟩ | _ | other)
    · exact absurd rfl listed
    · exact absurd rfl text.1
    · exact ⟨other, rfl⟩
  · rintro ⟨other, rfl⟩
    exact .noBounds other

end FilterKind

namespace Compile

theorem checkScalar_eq_error_iff (v : Json) (fault : ClauseFault) :
    checkScalar v = .error fault ↔ v.ScalarDefect fault := by
  constructor
  · intro refused
    cases v with
    | null => cases refused; exact .null
    | array items => cases refused; exact .array items
    | object members => cases refused; exact .object members
    | _ => cases refused
  · rintro (_ | _ | _) <;> rfl

theorem forM_checkScalar_eq_error_iff (items : List Json) (fault : ClauseFault) :
    items.forM checkScalar = .error fault ↔
      FailsFirst (fun v => v.isScalar = true) Json.ScalarDefect items fault := by
  induction items with
  | nil => simp [List.forM, pure, Except.pure, not_failsFirst_nil]
  | cons v rest ih =>
    rw [List.forM, bind_eq_error_iff, failsFirst_cons_iff, checkScalar_eq_error_iff, ← ih,
      ← checkScalar_eq_ok_iff]
    refine or_congr_right ⟨?_, fun both => ⟨(), both⟩⟩
    rintro ⟨_, both⟩
    exact both

theorem checkItems_eq_error_iff (items : List Json) (fault : ClauseFault) :
    checkItems items = .error fault ↔ SequenceDefect items fault := by
  cases items with
  | nil =>
    constructor
    · intro refused
      cases refused
      exact .empty
    · rintro (_ | first)
      · rfl
      · exact absurd first (not_failsFirst_nil fault)
  | cons v rest =>
    have nonempty : checkItems (v :: rest) = (v :: rest).forM checkScalar := rfl
    rw [nonempty, forM_checkScalar_eq_error_iff]
    exact ⟨.item, fun | .item first => first⟩

theorem textValues_eq_error_iff (kind : FilterKind) (text : kind ≠ .range ∧ kind ≠ .oneOf)
    (v : Json) (fault : ClauseFault) :
    textValues v = .error fault ↔ kind.FirstDefect v fault := by
  rw [FilterKind.firstDefect_text_iff v fault kind text]
  cases v with
  | array items =>
    rw [textValues, check_then_eq_error_iff, checkItems_eq_error_iff]
    simp [Json.isSequence]
  | _ =>
    rw [textValues, check_then_eq_error_iff, checkScalar_eq_error_iff]
    · simp [Json.isSequence]
    · simp

/-- A field is refused with the first defect of its value. -/
theorem fieldClauses_eq_error_iff (kind : FilterKind) (fuzziness : Binary64) (field : String)
    (value : Json) (fault : ClauseFault) :
    fieldClauses kind fuzziness field value = .error fault ↔ kind.FirstDefect value fault := by
  have mapped : ∀ build : List Json → List Clause, (kind ≠ .range ∧ kind ≠ .oneOf) →
      ((textValues value >>= fun found => pure (build found)) = .error fault ↔
        kind.FirstDefect value fault) := by
    intro build text
    rw [bind_eq_error_iff, textValues_eq_error_iff kind text]
    simp [pure, Except.pure]
  cases kind with
  | term => exact mapped _ (by simp)
  | fuzzy => exact mapped _ (by simp)
  | exclude => exact mapped (fun found => [.anyOf (found.map (Clause.notExact field))]) (by simp)
  | anywhere => exact mapped _ (by simp)
  | oneOf =>
    rw [FilterKind.firstDefect_oneOf_iff]
    cases value with
    | array items =>
      rw [fieldClauses, check_then_eq_error_iff, checkItems_eq_error_iff]
      simp [Json.isSequence]
    | _ => simp [fieldClauses, Json.isSequence, eq_comm]
  | range =>
    rw [FilterKind.firstDefect_range_iff]
    cases value with
    | object bounds => simp [fieldClauses, Json.isObject]
    | _ => simp [fieldClauses, Json.isObject, eq_comm]

end Compile

/-! ## Fields in the order in which they are read -/

/-- A field of a mapping, and the option it stands under. -/
structure Slot where
  kind : FilterKind
  occurrence : Occurrence
  field : String
  value : Json

namespace Slot

/-- The name of the option. -/
def key (s : Slot) : String := s.kind.key s.occurrence

def IsAccepted (s : Slot) : Prop := s.kind.accepts s.value = true

/-- The error names the option and the field, with the first defect of the value. -/
def IsRefused (s : Slot) (e : QueryError) : Prop :=
  ∃ fault, s.kind.FirstDefect s.value fault ∧ e = .malformedClause s.key s.field fault

/-- The fields of the mappings of these kinds. -/
def ofKinds (kinds : List FilterKind) (branches : FilterKind → Branches) : List Slot :=
  kinds.flatMap fun kind => [Occurrence.must, .should].flatMap fun occurrence =>
    (((branches kind).get occurrence).getD []).map fun m => ⟨kind, occurrence, m.1, m.2⟩

end Slot

def SearchOptions.slots (o : SearchOptions) : List Slot :=
  Slot.ofKinds [.term, .oneOf, .range, .fuzzy, .exclude, .anywhere] o.branches

/-- The mappings of a kind; an aggregation has those of three kinds. -/
def AggregationOptions.branches (o : AggregationOptions) : FilterKind → Branches
  | .term => o.term
  | .range => o.range
  | .fuzzy => o.fuzzy
  | .oneOf | .exclude | .anywhere => {}

def AggregationOptions.slots (o : AggregationOptions) : List Slot :=
  Slot.ofKinds [.term, .range, .fuzzy] o.branches

namespace Filter

def slots (f : Filter) : List Slot := f.fields.map fun m => ⟨f.kind, f.occurrence, m.1, m.2⟩

theorem slots_ofBranches (kind : FilterKind) (b : Branches) :
    (ofBranches kind b).flatMap slots = [Occurrence.must, .should].flatMap fun occurrence =>
      ((b.get occurrence).getD []).map fun m => ⟨kind, occurrence, m.1, m.2⟩ := by
  obtain ⟨must, should⟩ := b
  cases must <;> cases should <;> simp [ofBranches, slots, Branches.get]

end Filter

theorem SearchOptions.slots_eq (o : SearchOptions) : o.slots = o.filters.flatMap Filter.slots := by
  rw [filters, List.flatMap_assoc]
  simp only [Filter.slots_ofBranches]
  rfl

theorem AggregationOptions.slots_eq (o : AggregationOptions) :
    o.slots = o.filters.flatMap Filter.slots := by
  simp only [filters, List.flatMap_append, Filter.slots_ofBranches]
  simp [slots, Slot.ofKinds, branches]

/-! ## Compiling stops at the first refused field -/

namespace Compile

theorem go_cons (fuzziness : Binary64) (f : Filter) (m : String × Json) (rest : Json.Members) :
    filterClauses.go fuzziness f (m :: rest) = (do
      let here ← (fieldClauses f.kind fuzziness m.1 m.2).mapError (.malformedClause f.key m.1)
      let later ← filterClauses.go fuzziness f rest
      return here ++ later) := by
  rw [filterClauses.go]
  cases fieldClauses f.kind fuzziness m.1 m.2 <;> rfl

/-- A field is gone over alone. -/
theorem goesOver_field (fuzziness : Binary64) (f : Filter) (m : String × Json) :
    GoesOver Slot.IsAccepted Slot.IsRefused [⟨f.kind, f.occurrence, m.1, m.2⟩]
      ((fieldClauses f.kind fuzziness m.1 m.2).mapError (.malformedClause f.key m.1)) where
  ok_iff := by
    rw [List.forall_mem_singleton]
    simp only [mapError_eq_ok_iff, fieldClauses_eq_ok_iff]
    exact ⟨fun ⟨_, accepted, _⟩ => accepted, fun accepted => ⟨_, accepted, rfl⟩⟩
  error_iff e := by
    rw [failsFirst_singleton_iff, mapError_eq_error_iff]
    simp only [fieldClauses_eq_error_iff]
    rfl

theorem goesOver_go (fuzziness : Binary64) (f : Filter) (fields : Json.Members) :
    GoesOver Slot.IsAccepted Slot.IsRefused ({ f with fields } : Filter).slots
      (filterClauses.go fuzziness f fields) := by
  induction fields with
  | nil => exact goesOver_pure []
  | cons m rest ih =>
    rw [go_cons]
    exact (goesOver_field fuzziness f m).bind fun here => ih.bind_pure (here ++ ·)

theorem goesOver_filterClauses (fuzziness : Binary64) (f : Filter) :
    GoesOver Slot.IsAccepted Slot.IsRefused f.slots (filterClauses fuzziness f) :=
  goesOver_go fuzziness f f.fields

end Compile

open Compile

namespace BoolFilter

theorem goesOver_compileFrom (fuzziness : Binary64) (filters : List Filter) (f : BoolFilter) :
    GoesOver Slot.IsAccepted Slot.IsRefused (filters.flatMap Filter.slots)
      (f.compileFrom fuzziness filters) := by
  induction filters generalizing f with
  | nil => exact goesOver_pure f
  | cons filter rest ih => exact (goesOver_filterClauses fuzziness filter).bind fun _ => ih _

end BoolFilter

/-- Compiling gives a document exactly if all fields are accepted, and otherwise the error of the
first one that is refused. -/
def Slot.Govern (slots : List Slot) (compiled : Except QueryError QueryDocument) : Prop :=
  ((∃ q, compiled = .ok q) ↔ ∀ s ∈ slots, s.IsAccepted) ∧
  ∀ e, compiled = .error e ↔ FailsFirst Slot.IsAccepted Slot.IsRefused slots e

theorem BoolFilter.govern_compile (fuzziness : Binary64) (filters : List Filter)
    (document : Option BoolFilter → QueryDocument) :
    Slot.Govern (filters.flatMap Filter.slots)
      (compile fuzziness filters >>= fun filter => pure (document filter)) := by
  have whole := ((goesOver_compileFrom fuzziness filters {}).bind_pure
    fun f => if f.isEmpty then none else some f).bind_pure document
  exact ⟨whole.ok_iff, whole.error_iff⟩

theorem SearchOptions.govern_compile (o : SearchOptions) : Slot.Govern o.slots o.compile := by
  rw [o.slots_eq]
  exact BoolFilter.govern_compile o.fuzziness o.filters _

/-- Search options compile exactly if every field of every mapping has a value of the right shape,
and otherwise the error names the first field that has not, with the first defect of its value.
Aggregation options need a field to group by before anything else, and then are judged in the same
way. -/
theorem compile_refuses_first_defect :
    (∀ o : SearchOptions, Slot.Govern o.slots o.compile) ∧
    (∀ o : AggregationOptions,
      ((o.groupBy = none ∨ o.groupBy = some "") → o.compile = .error .missingGroupBy) ∧
      (∀ field, o.groupBy = some field → field ≠ "" → Slot.Govern o.slots o.compile)) := by
  refine ⟨SearchOptions.govern_compile, fun o => ⟨?_, ?_⟩⟩
  · rintro (absent | empty)
    · rw [AggregationOptions.compile, absent]
      rfl
    · rw [AggregationOptions.compile, empty]
      rfl
  · intro field given nonempty
    have kept : o.groupBy.filter (!·.isEmpty) = some field := by
      simpa [given] using nonempty
    rw [o.slots_eq, AggregationOptions.compile, kept]
    exact BoolFilter.govern_compile o.fuzziness o.filters _

/-- A list of names with a gap in it, and an age that was set first but is read later. -/
def gapInNames : Branches :=
  ({} : Branches).insert .should "name" (.array [.string "Simba", .null, .object []])

def ageAsNumber : Branches := ({} : Branches).insert .must "age" (.ofUInt64 5)

/-- Of several defects the first one is named, in searches and in aggregations. -/
theorem gapInNames_refused :
    let error := QueryError.malformedClause "shouldMatch" "name" .nullValue
    let o : AggregationOptions :=
      { term := gapInNames, range := ageAsNumber, groupBy := some "region" }
    o.groupBy = some "region" ∧ "region" ≠ "" ∧
      ({ term := gapInNames, range := ageAsNumber } : SearchOptions).compile = .error error ∧
      o.compile = .error error := by
  intro error o
  have gap : SequenceDefect [.string "Simba", .null, .object []] .nullValue :=
    .item ⟨[.string "Simba"], .null, [.object []], rfl, by simp [Json.isScalar], .null⟩
  have first : ∀ rest, FailsFirst Slot.IsAccepted Slot.IsRefused
      (⟨.term, .should, "name", .array [.string "Simba", .null, .object []]⟩ :: rest) error :=
    fun rest => ⟨[], _, rest, rfl, by simp, .nullValue, .sequence (by simp) gap, rfl⟩
  refine ⟨rfl, by decide, ?_, ?_⟩
  · exact ((compile_refuses_first_defect.1 _).2 error).mpr (first _)
  · exact (((compile_refuses_first_defect.2 o).2 "region" rfl (by decide)).2 error).mpr (first _)

end DocSearch
