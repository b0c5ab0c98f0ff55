import DocSearch.Proofs.Query.Building
import DocSearch.Proofs.Query.Shape

/-!
# What one field changes

Setting one field of a filter changes one block of clauses in the compiled query: a new field adds
its block behind those of its mapping, a field that is set again has its block replaced where it
stands. All other clauses, the other branch and the rest of the document stay as they are. A value
that is not accepted is the only thing that can be wrong with the query then, and is named.
-/
namespace DocSearch

/-! ## Setting a member -/

namespace Json.Members

variable {key : String} (value : Json)

theorem insert_of_first {before : Members} (absent : key ∉ keys before) (old : Json)
    (after : Members) :
    insert key value (before ++ (key, old) :: after) = before ++ (key, value) :: after := by
  induction before with
  | nil => exact if_pos rfl
  | cons m rest ih =>
    obtain ⟨other, later⟩ := not_or.mp (mt List.mem_cons.mpr absent)
    rw [List.cons_append, insert, if_neg (Ne.symm other), ih later, List.cons_append]

/-- A member that is there has a first place. -/
theorem exists_first {members : Members} (present : key ∈ keys members) :
    ∃ before old after, members = before ++ (key, old) :: after ∧ key ∉ keys before := by
  obtain ⟨before, after, split, absent⟩ := List.eq_append_cons_of_mem present
  obtain ⟨front, back, rfl, rfl, rest⟩ := List.map_eq_append_iff.mp split
  obtain ⟨m, later, rfl, rfl, -⟩ := List.map_eq_cons_iff.mp rest
  exact ⟨front, m.2, later, rfl, absent⟩

theorem mem_insert_self (members : Members) : (key, value) ∈ insert key value members := by
  by_cases present : key ∈ keys members
  · obtain ⟨before, old, after, rfl, absent⟩ := exists_first present
    simp [insert_of_first value absent]
  · simp [insert_of_not_mem value present]

theorem eq_or_mem_of_mem_insert {members : Members} {m : String × Json}
    (member : m ∈ insert key value members) : m = (key, value) ∨ m ∈ members := by
  by_cases present : key ∈ keys members
  · obtain ⟨before, old, after, rfl, absent⟩ := exists_first present
    rw [insert_of_first value absent] at member
    simp only [List.mem_append, List.mem_cons] at member ⊢
    tauto
  · simpa [insert_of_not_mem value present, or_comm] using member

end Json.Members

/-! ## Clauses by kinds -/

namespace FilterKind

/-- The kinds that are compiled before this one. -/
def earlier (kind : FilterKind) : List FilterKind := all.takeWhile (· ≠ kind)

/-- The kinds that are compiled after this one. -/
def later (kind : FilterKind) : List FilterKind := (all.dropWhile (· ≠ kind)).tail

theorem all_eq_append (kind : FilterKind) : all = kind.earlier ++ kind :: kind.later := by
  cases kind <;> rfl

theorem not_mem_earlier (kind : FilterKind) : kind ∉ kind.earlier := by
  cases kind <;> decide

theorem not_mem_later (kind : FilterKind) : kind ∉ kind.later := by
  cases kind <;> decide

theorem accepts_of_firstDefect {kind : FilterKind} {v : Json} {fault : ClauseFault}
    (defect : kind.FirstDefect v fault) : kind.accepts v = false := by
  rw [← Bool.not_eq_true]
  intro accepted
  have refused := (Compile.fieldClauses_eq_error_iff kind defaultFuzziness "" v fault).mpr defect
  rw [(Compile.fieldClauses_eq_ok_iff kind defaultFuzziness "" v _).mpr ⟨accepted, rfl⟩] at refused
  cases refused

end FilterKind

namespace Compile

theorem blocks_append (fuzziness : Binary64) (kind : FilterKind) (occurrence : Occurrence)
    (front back : Json.Members) :
    blocks fuzziness ⟨kind, occurrence, front ++ back⟩ =
      blocks fuzziness ⟨kind, occurrence, front⟩ ++ blocks fuzziness ⟨kind, occurrence, back⟩ :=
  List.flatMap_append

theorem blocks_singleton (fuzziness : Binary64) (kind : FilterKind) (occurrence : Occurrence)
    (field : String) (value : Json) :
    blocks fuzziness ⟨kind, occurrence, [(field, value)]⟩ = block kind fuzziness field value :=
  List.flatMap_singleton _ _

theorem blocks_append_cons (fuzziness : Binary64) (kind : FilterKind) (occurrence : Occurrence)
    (before after : Json.Members) (field : String) (value : Json) :
    blocks fuzziness ⟨kind, occurrence, before ++ (field, value) :: after⟩ =
      blocks fuzziness ⟨kind, occurrence, before⟩ ++ block kind fuzziness field value ++
        blocks fuzziness ⟨kind, occurrence, after⟩ := by
  rw [List.append_cons, blocks_append, blocks_append, blocks_singleton]

end Compile

namespace SearchOptions

/-- The fields of a filter. -/
def mapping (o : SearchOptions) (kind : FilterKind) (occurrence : Occurrence) : Json.Members :=
  ((o.branches kind).get occurrence).getD []

/-- The clauses that the filters of these kinds put on a branch. -/
def clausesOf (o : SearchOptions) (kinds : List FilterKind) (occurrence : Occurrence) :
    List Clause :=
  kinds.flatMap fun kind =>
    Compile.blocks o.fuzziness ⟨kind, occurrence, o.mapping kind occurrence⟩

variable (o : SearchOptions) (kind : FilterKind) (occurrence : Occurrence) (field : String)
  (value : Json)

theorem clausesOf_append (front back : List FilterKind) :
    o.clausesOf (front ++ back) occurrence =
      o.clausesOf front occurrence ++ o.clausesOf back occurrence :=
  List.flatMap_append

theorem clausesOf_singleton :
    o.clausesOf [kind] occurrence =
      Compile.blocks o.fuzziness ⟨kind, occurrence, o.mapping kind occurrence⟩ :=
  List.flatMap_singleton _ _

/-- The clauses of one kind, between those of the kinds before it and after it. -/
theorem clausesOf_all :
    o.clausesOf FilterKind.all occurrence =
      o.clausesOf kind.earlier occurrence ++
        Compile.blocks o.fuzziness ⟨kind, occurrence, o.mapping kind occurrence⟩ ++
        o.clausesOf kind.later occurrence := by
  rw [kind.all_eq_append, List.append_cons, clausesOf_append, clausesOf_append,
    clausesOf_singleton]

theorem branch_filters : Compile.branch o.fuzziness occurrence o.filters =
    o.clausesOf FilterKind.all occurrence := by
  have own : ∀ kind, ((Filter.ofBranches kind (o.branches kind)).filter
      (·.occurrence = occurrence)).flatMap (Compile.blocks o.fuzziness) =
        Compile.blocks o.fuzziness ⟨kind, occurrence, o.mapping kind occurrence⟩ := by
    intro kind
    rw [mapping]
    obtain ⟨must, should⟩ := o.branches kind
    cases occurrence <;> cases must <;> cases should <;>
      simp [Filter.ofBranches, Branches.get, Compile.blocks]
  rw [Compile.branch, filters, List.filter_flatMap, List.flatMap_assoc, clausesOf]
  simp only [own]

theorem clauses_of_compile {o : SearchOptions} {q : QueryDocument} (compiled : o.compile = .ok q)
    (occurrence : Occurrence) :
    BoolFilter.clauses q.filter occurrence = o.clausesOf FilterKind.all occurrence := by
  obtain ⟨-, rfl⟩ := (o.compile_eq_ok_iff q).mp compiled
  rw [BoolFilter.clauses_of_filters, branch_filters]

/-! ## The options with the field -/

theorem mapping_withFilter (kind' : FilterKind) (occurrence' : Occurrence) :
    (o.withFilter kind occurrence field value).mapping kind' occurrence' =
      if kind = kind' ∧ occurrence = occurrence' then
        Json.Members.insert field value (o.mapping kind' occurrence')
      else o.mapping kind' occurrence' := by
  have applied := o.get_branches_apply (.filter kind occurrence field value) kind' occurrence'
  rw [mapping, show (o.withFilter kind occurrence field value).branches kind' =
    (o.apply (.filter kind occurrence field value)).branches kind' from rfl, applied,
    Step.assignment?]
  split <;> simp_all [mapping]

theorem hasSettings_withFilter :
    (o.withFilter kind occurrence field value).HasSettings none none none none o :=
  o.hasSettings_apply (.filter kind occurrence field value)

/-- Kinds that the field is not of keep their clauses, and so does the other branch. -/
theorem clausesOf_withFilter_of_ne {kinds : List FilterKind} {occurrence' : Occurrence}
    (apart : occurrence ≠ occurrence' ∨ kind ∉ kinds) :
    (o.withFilter kind occurrence field value).clausesOf kinds occurrence' =
      o.clausesOf kinds occurrence' := by
  rw [clausesOf, clausesOf, (o.hasSettings_withFilter kind occurrence field value).fuzziness]
  refine List.flatMap_congr fun kind' member => ?_
  rw [mapping_withFilter, if_neg]
  · rfl
  · rintro ⟨rfl, rfl⟩
    exact apart.elim (absurd rfl) (absurd member)

/-- On its branch the field stands among the clauses of its kind. -/
theorem clausesOf_all_withFilter :
    (o.withFilter kind occurrence field value).clausesOf FilterKind.all occurrence =
      o.clausesOf kind.earlier occurrence ++
        Compile.blocks o.fuzziness
          ⟨kind, occurrence, Json.Members.insert field value (o.mapping kind occurrence)⟩ ++
        o.clausesOf kind.later occurrence := by
  rw [clausesOf_all _ kind, mapping_withFilter, if_pos ⟨rfl, rfl⟩,
    o.clausesOf_withFilter_of_ne kind occurrence field value (.inr kind.not_mem_earlier),
    o.clausesOf_withFilter_of_ne kind occurrence field value (.inr kind.not_mem_later),
    (o.hasSettings_withFilter kind occurrence field value).fuzziness]
  rfl

/-! ## What may be refused -/

theorem mem_slots_iff (s : Slot) :
    s ∈ o.slots ↔ (s.field, s.value) ∈ o.mapping s.kind s.occurrence := by
  simp only [slots, Slot.ofKinds, List.mem_flatMap, List.mem_map]
  constructor
  · rintro ⟨kind, -, occurrence, -, m, member, rfl⟩
    exact member
  · intro member
    exact ⟨s.kind, by cases s.kind <;> simp, s.occurrence, by cases s.occurrence <;> simp,
      (s.field, s.value), member, rfl⟩

theorem mem_slots_withFilter_self :
    ⟨kind, occurrence, field, value⟩ ∈ (o.withFilter kind occurrence field value).slots := by
  rw [mem_slots_iff, mapping_withFilter, if_pos ⟨rfl, rfl⟩]
  exact Json.Members.mem_insert_self value _

/-- Setting a field brings no other field in. -/
theorem eq_or_mem_slots_of_withFilter {s : Slot}
    (member : s ∈ (o.withFilter kind occurrence field value).slots) :
    s = ⟨kind, occurrence, field, value⟩ ∨ s ∈ o.slots := by
  rw [mem_slots_iff, mapping_withFilter] at member
  rw [mem_slots_iff]
  split at member
  next here =>
    obtain ⟨rfl, rfl⟩ := here
    refine (Json.Members.eq_or_mem_of_mem_insert value member).imp_left fun same => ?_
    obtain ⟨rfl, rfl⟩ := Prod.mk.inj same
    rfl
  next => exact .inr member

theorem exists_compile_withFilter {o : SearchOptions} {q : QueryDocument}
    (compiled : o.compile = .ok q) (accepted : kind.accepts value = true) :
    ∃ q', (o.withFilter kind occurrence field value).compile = .ok q' := by
  refine (o.withFilter kind occurrence field value).govern_compile.1.mpr fun s member => ?_
  obtain rfl | before := o.eq_or_mem_slots_of_withFilter kind occurrence field value member
  · exact accepted
  · exact o.govern_compile.1.mp ⟨q, compiled⟩ s before

/-- The first field that is refused can only be the one that was set. -/
theorem compile_withFilter_of_refused {o : SearchOptions} {q : QueryDocument}
    (compiled : o.compile = .ok q) (refused : kind.accepts value = false) :
    ∃ fault, kind.FirstDefect value fault ∧
      (o.withFilter kind occurrence field value).compile =
        .error (.malformedClause (kind.key occurrence) field fault) := by
  obtain ⟨succeeds, fails⟩ := (o.withFilter kind occurrence field value).govern_compile
  cases result : (o.withFilter kind occurrence field value).compile with
  | ok q' =>
    have accepted := succeeds.mp ⟨q', result⟩ _
      (o.mem_slots_withFilter_self kind occurrence field value)
    exact absurd accepted (by simp [Slot.IsAccepted, refused])
  | error e =>
    obtain ⟨before, s, after, split, -, fault, defect, rfl⟩ := (fails e).mp result
    have member : s ∈ (o.withFilter kind occurrence field value).slots := by simp [split]
    obtain rfl | old := o.eq_or_mem_slots_of_withFilter kind occurrence field value member
    · exact ⟨fault, defect, rfl⟩
    · -- the options from before would not have compiled
      have accepted := o.govern_compile.1.mp ⟨q, compiled⟩ s old
      exact absurd accepted (by simp [Slot.IsAccepted, FilterKind.accepts_of_firstDefect defect])

/-- Options with the same settings compile to documents that differ in their filters at most. -/
theorem rest_eq_of_compile {o o' : SearchOptions} {q q' : QueryDocument}
    (settings : o'.HasSettings none none none none o) (compiled : o.compile = .ok q)
    (compiled' : o'.compile = .ok q') :
    q'.offset = q.offset ∧ q'.size = q.size ∧ q'.sort = q.sort ∧
      q'.aggregation = q.aggregation := by
  obtain ⟨-, rfl⟩ := (o.compile_eq_ok_iff q).mp compiled
  obtain ⟨-, rfl⟩ := (o'.compile_eq_ok_iff q').mp compiled'
  exact ⟨congrArg₂ pageOffset settings.page settings.pageSize, settings.pageSize, settings.sort,
    rfl⟩

end SearchOptions

open SearchOptions

/-- Setting one field of options that compile. If its value is accepted, the query differs from the
one before in one block of clauses: that of the field, which stands behind the clauses of its kind
if the field is new, and else in the place of its old block. If its value is not accepted, the
option and the field are named, with the first defect of the value. -/
theorem field_changes_one_block {o : SearchOptions} {q : QueryDocument}
    (compiled : o.compile = .ok q) (kind : FilterKind) (occurrence : Occurrence) (field : String)
    (value : Json) :
    let o' := o.withFilter kind occurrence field value
    let fields := o.mapping kind occurrence
    (kind.accepts value = true → ∃ q' block, o'.compile = .ok q' ∧
      Compile.fieldClauses kind o.fuzziness field value = .ok block ∧
      q'.offset = q.offset ∧ q'.size = q.size ∧ q'.sort = q.sort ∧
      q'.aggregation = q.aggregation ∧
      (∀ other, other ≠ occurrence →
        BoolFilter.clauses q'.filter other = BoolFilter.clauses q.filter other) ∧
      (field ∉ Json.Members.keys fields →
        let front := o.clausesOf (kind.earlier ++ [kind]) occurrence
        let back := o.clausesOf kind.later occurrence
        BoolFilter.clauses q.filter occurrence = front ++ back ∧
        BoolFilter.clauses q'.filter occurrence = front ++ block ++ back) ∧
      (field ∈ Json.Members.keys fields → ∃ before old after oldBlock,
        fields = before ++ (field, old) :: after ∧ field ∉ Json.Members.keys before ∧
        Compile.fieldClauses kind o.fuzziness field old = .ok oldBlock ∧
        let front := o.clausesOf kind.earlier occurrence ++
          Compile.blocks o.fuzziness ⟨kind, occurrence, before⟩
        let back := Compile.blocks o.fuzziness ⟨kind, occurrence, after⟩ ++
          o.clausesOf kind.later occurrence
        BoolFilter.clauses q.filter occurrence = front ++ oldBlock ++ back ∧
        BoolFilter.clauses q'.filter occurrence = front ++ block ++ back)) ∧
    (kind.accepts value = false → ∃ fault, kind.FirstDefect value fault ∧
      o'.compile = .error (.malformedClause (kind.key occurrence) field fault)) := by
  intro o' fields
  refine ⟨fun accepted => ?_, compile_withFilter_of_refused kind occurrence field value compiled⟩
  obtain ⟨q', compiled'⟩ := exists_compile_withFilter kind occurrence field value compiled accepted
  obtain ⟨offset, size, sort, aggregation⟩ := rest_eq_of_compile
    (o.hasSettings_withFilter kind occurrence field value) compiled compiled'
  have whole := (clauses_of_compile compiled occurrence).trans (o.clausesOf_all kind occurrence)
  have whole' := (clauses_of_compile compiled' occurrence).trans
    (o.clausesOf_all_withFilter kind occurrence field value)
  refine ⟨q', _, compiled', (Compile.fieldClauses_eq_ok_iff _ _ _ _ _).mpr ⟨accepted, rfl⟩,
    offset, size, sort, aggregation, ?_, ?_, ?_⟩
  · intro other apart
    rw [clauses_of_compile compiled, clauses_of_compile compiled']
    exact o.clausesOf_withFilter_of_ne kind occurrence field value (.inl (Ne.symm apart))
  · intro new front back
    -- a new field is the last of its mapping, so its block ends the clauses of its kind
    have own : front = o.clausesOf kind.earlier occurrence ++
        Compile.blocks o.fuzziness ⟨kind, occurrence, fields⟩ := by
      rw [← o.clausesOf_singleton kind occurrence, ← clausesOf_append]
    refine ⟨by rw [whole, own], ?_⟩
    rw [whole', own, Json.Members.insert_of_not_mem value new, Compile.blocks_append,
      Compile.blocks_singleton]
    simp only [List.append_assoc, back]
  · intro present
    obtain ⟨before, old, after, split, first⟩ :
        ∃ before old after, o.mapping kind occurrence = before ++ (field, old) :: after ∧
          field ∉ Json.Members.keys before := Json.Members.exists_first present
    have old_accepted : kind.accepts old = true := by
      have member : ⟨kind, occurrence, field, old⟩ ∈ o.slots := by
        rw [mem_slots_iff]
        simp [split]
      exact o.govern_compile.1.mp ⟨q, compiled⟩ _ member
    refine ⟨before, old, after, _, split, first,
      (Compile.fieldClauses_eq_ok_iff _ _ _ _ _).mpr ⟨old_accepted, rfl⟩, ?_, ?_⟩
    · rw [whole, split, Compile.blocks_append_cons]
      simp only [List.append_assoc]
    · rw [whole', split, Json.Members.insert_of_first value first, Compile.blocks_append_cons]
      simp only [List.append_assoc]

/-- Lions and hyenas of some name, but not that one. -/
def otherLions : SearchOptions :=
  (({} : SearchOptions).withFilter .term .must "species"
      (.array [.string "lion", .string "hyena"])).withFilter .exclude .must "name"
    (.array [.string "Scar"])

/-- An age comes between the species and the name that is ruled out, other species come where the
old ones stood, and no age is refused. -/
theorem otherLions_changed :
    let name := Clause.anyOf [.notExact "name" (.string "Scar")]
    let species := [Clause.term "species" (.string "lion"), .term "species" (.string "hyena")]
    ∃ q, otherLions.compile = .ok q ∧ BoolFilter.clauses q.filter .must = species ++ [name] ∧
      (∃ q', (otherLions.withFilter .range .must "age" (.object [])).compile = .ok q' ∧
        BoolFilter.clauses q'.filter .must = species ++ [.range "age" []] ++ [name]) ∧
      (∃ q', (otherLions.withFilter .term .must "species" (.array [.bool true])).compile = .ok q' ∧
        BoolFilter.clauses q'.filter .must = [.term "species" (.bool true)] ++ [name]) ∧
      (otherLions.withFilter .range .must "age" .null).compile =
        .error (.malformedClause "mustRange" "age" (.notBounds .null)) := by
  intro name species
  have compiled := (otherLions.compile_eq_ok_iff _).mpr ⟨by decide, rfl⟩
  obtain ⟨adds, -⟩ := field_changes_one_block compiled .range .must "age" (.object [])
  obtain ⟨q', block, compiled', aged, -, -, -, -, -, new, -⟩ := adds rfl
  obtain ⟨clauses, clauses'⟩ := new (by decide)
  obtain ⟨replaces, -⟩ :=
    field_changes_one_block compiled .term .must "species" (.array [.bool true])
  obtain ⟨q'', block', compiled'', other, -, -, -, -, -, -, set_before⟩ := replaces rfl
  obtain ⟨before, old, after, oldBlock, split, first, -, -, clauses''⟩ := set_before (by decide)
  obtain ⟨-, refuses⟩ := field_changes_one_block compiled .range .must "age" .null
  obtain ⟨fault, defect, refused⟩ := refuses rfl
  obtain ⟨-, rfl⟩ := (FilterKind.firstDefect_range_iff _ _).mp defect
  refine ⟨_, compiled, clauses, ⟨q', compiled', ?_⟩, ⟨q'', compiled'', ?_⟩, refused⟩
  · cases aged
    exact clauses'
  · obtain rfl : before = [] := by
      cases before with
      | nil => rfl
      | cons m rest => cases rest <;> cases split
    cases split
    cases other
    exact clauses''

end DocSearch
