import DocSearch.Proofs.Query.Body
import DocSearch.Proofs.Query.Raw
import DocSearch.Proofs.Query.Tolerance
import Mathlib.Data.List.Induction
import Mathlib.Data.List.Nodup

/-!
# Building options and writing them down

The steps that build search options can be written down as an object, by what each of them sets:
the fields of a filter in the order in which they were set first, with their last values, and the
last value of every other option. Reading that object gives the options that the steps build.
-/
namespace DocSearch

/-! ## Fields that are set again -/

namespace Json.Members

/-- The fields in the order in which they come up first, each with the value it is given last. -/
def settle (assignments : Members) : Members :=
  (keys assignments).eraseDups.filterMap fun field =>
    (find? field assignments.reverse).map fun value => (field, value)

theorem eraseDups_concat (names : List String) (name : String) :
    (names ++ [name]).eraseDups =
      if name ∈ names then names.eraseDups else names.eraseDups ++ [name] := by
  rw [List.eraseDups_append]
  by_cases seen : name ∈ names <;> simp [List.removeAll, List.eraseDups_cons, seen]

theorem nodup_eraseDups (names : List String) : names.eraseDups.Nodup := by
  induction names using List.reverseRecOn with
  | nil => simp
  | append_singleton names name ih =>
    rw [eraseDups_concat]
    split
    next => exact ih
    next unseen =>
      rw [← List.concat_eq_append]
      exact ih.concat fun member => unseen (List.mem_eraseDups.mp member)

theorem find?_reverse_eq_none_iff (field : String) (assignments : Members) :
    find? field assignments.reverse = none ↔ field ∉ keys assignments := by
  rw [find?_eq_none_iff, keys, List.map_reverse, List.mem_reverse]
  rfl

theorem keys_settle (assignments : Members) :
    keys (settle assignments) = (keys assignments).eraseDups := by
  have assigned : ∀ field ∈ (keys assignments).eraseDups,
      ((find? field assignments.reverse).map fun value => (field, value)).map Prod.fst
        = some field := by
    intro field member
    cases found : find? field assignments.reverse with
    | some value => rfl
    | none =>
      have absent := (find?_reverse_eq_none_iff field assignments).mp found
      exact absurd (List.mem_eraseDups.mp member) absent
  rw [settle, keys, List.map_filterMap, List.filterMap_congr assigned, List.filterMap_some]

theorem find?_settle (field : String) (assignments : Members) :
    find? field (settle assignments) = find? field assignments.reverse := by
  -- for any list of names, since `eraseDups` does not follow the assignments one by one
  have among : ∀ names : List String,
      find? field (names.filterMap fun name =>
        (find? name assignments.reverse).map fun value => (name, value)) =
        if field ∈ names then find? field assignments.reverse else none := by
    intro names
    induction names with
    | nil => rfl
    | cons name rest ih =>
      by_cases here : name = field
      · subst here
        cases found : find? name assignments.reverse <;> simp [find?, found, ih]
      · cases found : find? name assignments.reverse <;>
          simp [find?, found, ih, here, Ne.symm here]
  rw [settle, among]
  split
  next => rfl
  next absent =>
    rw [List.mem_eraseDups] at absent
    exact ((find?_reverse_eq_none_iff field assignments).mpr absent).symm

/-- One more assignment sets the field in what was settled before. -/
theorem settle_concat (assignments : Members) (field : String) (value : Json) :
    settle (assignments ++ [(field, value)]) = insert field value (settle assignments) := by
  -- both have the same keys in the same order, and under each key the last value
  refine eq_of_find?_eq ?_ ?_ fun key => ?_
  · rw [keys_insert, keys_settle, keys_settle, keys, List.map_append, List.map_singleton,
      eraseDups_concat, keys]
    simp only [List.mem_eraseDups]
  · rw [keys_settle]
    exact nodup_eraseDups _
  · rw [find?_settle, List.reverse_append, List.reverse_singleton, List.singleton_append, find?]
    by_cases same : field = key
    · subst same
      rw [find?_insert_self, if_pos rfl]
    · rw [find?_insert_of_ne value _ same, find?_settle, if_neg same]

end Json.Members

/-! ## What steps set -/

namespace SearchOptions

namespace Step

/-- The field and the value of a step that sets a field of this filter. -/
def assignment? (kind : FilterKind) (occurrence : Occurrence) : Step → Option (String × Json)
  | .filter kind' occurrence' field value =>
    if kind' = kind ∧ occurrence' = occurrence then some (field, value) else none
  | _ => none

def fuzziness? : Step → Option Binary64
  | .fuzziness value => some value
  | _ => none

def sort? : Step → Option Json
  | .sort value => some value
  | _ => none

def pageSize? : Step → Option UInt64
  | .pageSize value => some value
  | _ => none

def page? : Step → Option UInt64
  | .page value => some value
  | _ => none

end Step

/-- The last value that steps set. -/
def last? {α : Type} (read : Step → Option α) (steps : List Step) : Option α :=
  (steps.filterMap read).getLast?

/-- The fields of a filter that steps set, if there are any. -/
def fields? (kind : FilterKind) (occurrence : Occurrence) (steps : List Step) :
    Option Json.Members :=
  let assignments := steps.filterMap (Step.assignment? kind occurrence)
  if assignments.isEmpty then none else some (Json.Members.settle assignments)

theorem build_concat (steps : List Step) (s : Step) :
    build (steps ++ [s]) = (build steps).apply s := by
  rw [build, List.foldl_append]
  rfl

/-- A step that sets a field of a filter changes that filter, and no other. -/
theorem get_branches_apply (o : SearchOptions) (s : Step) (kind : FilterKind)
    (occurrence : Occurrence) :
    ((o.apply s).branches kind).get occurrence =
      match s.assignment? kind occurrence with
      | some (field, value) =>
        some (Json.Members.insert field value (((o.branches kind).get occurrence).getD []))
      | none => (o.branches kind).get occurrence := by
  cases s with
  | filter kind' occurrence' field value =>
    cases kind <;> cases kind' <;> cases occurrence <;> cases occurrence' <;> rfl
  | _ => cases kind <;> rfl

/-- What steps set in a filter is what it holds. -/
theorem get_branches_build (kind : FilterKind) (occurrence : Occurrence) (steps : List Step) :
    ((build steps).branches kind).get occurrence = fields? kind occurrence steps := by
  -- from the end, where one more step is one more assignment to settle
  induction steps using List.reverseRecOn with
  | nil => cases kind <;> cases occurrence <;> rfl
  | append_singleton steps s ih =>
    rw [build_concat, get_branches_apply, ih, fields?, fields?, List.filterMap_append]
    cases set : s.assignment? kind occurrence with
    | none => simp [set]
    | some assignment =>
      have last : [s].filterMap (Step.assignment? kind occurrence) = [assignment] := by simp [set]
      rw [last, Json.Members.settle_concat]
      cases steps.filterMap (Step.assignment? kind occurrence) <;> rfl

/-- The options that are set as a whole have these values, or the ones from before. -/
structure HasSettings (o : SearchOptions) (fuzziness : Option Binary64) (sort : Option Json)
    (pageSize page : Option UInt64) (before : SearchOptions) : Prop where
  fuzziness : o.fuzziness = fuzziness.getD before.fuzziness
  sort : o.sort = sort.or before.sort
  pageSize : o.pageSize = pageSize.getD before.pageSize
  page : o.page = page.getD before.page

theorem hasSettings_apply (o : SearchOptions) (s : Step) :
    (o.apply s).HasSettings s.fuzziness? s.sort? s.pageSize? s.page? o := by
  cases s with
  | filter kind => cases kind <;> exact ⟨rfl, rfl, rfl, rfl⟩
  | _ => exact ⟨rfl, rfl, rfl, rfl⟩

theorem last?_concat {α : Type} (read : Step → Option α) (steps : List Step) (s : Step) :
    last? read (steps ++ [s]) = (read s).or (last? read steps) := by
  rw [last?, List.filterMap_append, List.getLast?_append, last?]
  cases set : read s <;> simp [set]

theorem hasSettings_build (steps : List Step) :
    (build steps).HasSettings (last? Step.fuzziness? steps) (last? Step.sort? steps)
      (last? Step.pageSize? steps) (last? Step.page? steps) {} := by
  induction steps using List.reverseRecOn with
  | nil => exact ⟨rfl, rfl, rfl, rfl⟩
  | append_singleton steps s ih =>
    have applied := hasSettings_apply (build steps) s
    rw [build_concat]
    simp only [last?_concat]
    constructor
    · rw [applied.fuzziness, ih.fuzziness, Option.getD_or]
    · rw [applied.sort, ih.sort, Option.or_assoc]
    · rw [applied.pageSize, ih.pageSize, Option.getD_or]
    · rw [applied.page, ih.page, Option.getD_or]

/-! ## Writing them down -/

open RawOptions

/-- The object holds what the steps set last, each option under its name. -/
structure Describes (raw : Json.Members) (steps : List Step) : Prop where
  filters : ∀ kind occurrence, Json.Members.find? (kind.key occurrence) raw =
    (fields? kind occurrence steps).map .object
  fuzziness : Json.Members.find? "fuzziness" raw = (last? Step.fuzziness? steps).map .ofBinary64
  sort : Json.Members.find? "sort" raw = last? Step.sort? steps
  pageSize : Json.Members.find? "pageSize" raw = (last? Step.pageSize? steps).map .ofUInt64
  page : Json.Members.find? "page" raw = (last? Step.page? steps).map .ofUInt64

/-- The filters in the order in which they are compiled. -/
def listing : List (FilterKind × Occurrence) :=
  [(.term, .must), (.term, .should), (.oneOf, .must), (.oneOf, .should),
    (.range, .must), (.range, .should), (.fuzzy, .must), (.fuzzy, .should),
    (.exclude, .must), (.exclude, .should), (.anywhere, .must), (.anywhere, .should)]

/-- What the steps set of each option. -/
def settings (steps : List Step) : List (String × Option Json) :=
  (listing.map fun f => (f.1.key f.2, (fields? f.1 f.2 steps).map Json.object)) ++
    [("fuzziness", (last? Step.fuzziness? steps).map Json.ofBinary64),
      ("sort", last? Step.sort? steps),
      ("pageSize", (last? Step.pageSize? steps).map Json.ofUInt64),
      ("page", (last? Step.page? steps).map Json.ofUInt64)]

theorem nodup_names_settings (steps : List Step) : ((settings steps).map Prod.fst).Nodup := by
  have names : (settings steps).map Prod.fst = (settings []).map Prod.fst := rfl
  rw [names]
  decide

/-- The order of the members does not matter. -/
theorem describes_of_perm {raw : Json.Members} {steps : List Step}
    (perm : raw.Perm (QueryDocument.given (settings steps))) : Describes raw steps := by
  have distinct := nodup_names_settings steps
  have found : ∀ {name value}, (name, value) ∈ settings steps →
      Json.Members.find? name raw = value := by
    intro name value member
    have distinct' : (Json.Members.keys (QueryDocument.given (settings steps))).Nodup :=
      distinct.sublist (QueryDocument.keys_given_sublist _)
    rw [← Json.Members.find?_eq_of_perm perm.symm distinct',
      QueryDocument.find?_given_of_mem distinct member]
  refine ⟨fun kind occurrence => found ?_, found ?_, found ?_, found ?_, found ?_⟩
  · refine List.mem_append_left _ (List.mem_map.mpr ⟨(kind, occurrence), ?_, rfl⟩)
    cases kind <;> cases occurrence <;> decide
  all_goals exact List.mem_append_right _ (by simp)

theorem filters_eq_filterMap (o : SearchOptions) :
    o.filters = listing.filterMap fun f =>
      ((o.branches f.1).get f.2).map fun fields => ⟨f.1, f.2, fields⟩ := by
  have each : ∀ kind b, Filter.ofBranches kind b =
      [(kind, .must), (kind, .should)].filterMap fun f : FilterKind × Occurrence =>
        (b.get f.2).map fun fields => ⟨f.1, f.2, fields⟩ := by
    rintro kind ⟨must, should⟩
    cases must <;> cases should <;> rfl
  have grouped : listing = FilterKind.all.flatMap fun kind =>
      [(kind, .must), (kind, .should)] := rfl
  rw [filters, grouped, List.filterMap_flatMap]
  simp only [each]
  rfl

/-- A zero is as good as no tolerance, since the default is the zero without a sign. -/
theorem unsigned_getD_default (fuzziness : Option Binary64) :
    (fuzziness.getD defaultFuzziness).unsigned =
      (fuzziness.filter fun x => !x.isZero).getD defaultFuzziness := by
  rcases fuzziness with _ | (_ | _ | x)
  · rfl
  · rfl
  · rfl
  · rw [Option.getD_some, Binary64.unsigned, Finite64.unsigned, Option.filter_some]
    by_cases zero : x.isZero = true <;> simp [Binary64.isZero, zero, defaultFuzziness]

/-- Options that can be written down: page and page size count from one, the tolerance is finite
and not negative, and the order is not one that counts as not given. -/
structure IsWritable (o : SearchOptions) : Prop where
  page : 0 < o.page
  pageSize : 0 < o.pageSize
  finite : o.fuzziness.isFinite = true
  nonnegative : o.fuzziness.isNonnegative = true
  ordered : ∀ v, o.sort = some v → isFalsy v = false

/-- What describes the steps is read as what they build, but for the sign of a tolerance of
zero. -/
theorem ofRaw_eq_build {steps : List Step} {raw : Json.Members}
    (writable : (build steps).IsWritable) (described : Describes raw steps) :
    ofRaw raw = .ok { build steps with fuzziness := (build steps).fuzziness.unsigned } := by
  obtain ⟨page, pageSize, finite, nonnegative, ordered⟩ := writable
  have built := hasSettings_build steps
  have sort : (build steps).sort = last? Step.sort? steps := by rw [built.sort, Option.or_none]
  refine (ofRaw_eq_ok_iff raw _).mpr ⟨fun kind => ?kinds,
    ⟨_, optional_nonnegative described.fuzziness ?tolerance, ?fuzziness⟩, ?sort,
    ⟨_, optional_positive described.pageSize ?pageSize, built.pageSize⟩,
    ⟨_, optional_positive described.page ?page, built.page⟩⟩
  case kinds =>
    have written : ∀ occurrence, Json.Members.find? (kind.key occurrence) raw =
        (((build steps).branches kind).get occurrence).map .object := by
      intro occurrence
      rw [described.filters, ← get_branches_build]
    cases kind <;> exact readBranches_of_mappings (written .must) (written .should)
  case tolerance =>
    rintro x last
    rw [built.fuzziness, Option.mem_def.mp last] at finite nonnegative
    exact ⟨finite, nonnegative⟩
  case fuzziness =>
    dsimp only
    rw [built.fuzziness]
    exact unsigned_getD_default _
  case sort =>
    rw [sort] at ordered
    dsimp only
    rw [given?, described.sort, sort]
    cases last : last? Step.sort? steps with
    | none => rfl
    | some v => rw [Option.filter_some, if_pos (by simp [ordered v last])]
  case pageSize =>
    rintro n last
    rwa [built.pageSize, Option.mem_def.mp last] at pageSize
  case page =>
    rintro n last
    rwa [built.page, Option.mem_def.mp last] at page

end SearchOptions

open SearchOptions

/-- Of steps that build options that can be written down, an object made of what they set last can
be read, in whatever order its members stand, and the options that are read are those that were
built, but for the sign of a tolerance of zero. Their filters are those that were set, each once
and in the order in which they are compiled. What was built and what was read compile to the same
query, but for that sign, or have the same error. -/
theorem builds_and_readings_agree (steps : List Step) (writable : (build steps).IsWritable) :
    (∀ raw, raw.Perm (QueryDocument.given (settings steps)) → Describes raw steps) ∧
    (build steps).filters = listing.filterMap (fun f =>
      (fields? f.1 f.2 steps).map fun fields => ⟨f.1, f.2, fields⟩) ∧
    ∀ raw, Describes raw steps →
      let o := { build steps with fuzziness := (build steps).fuzziness.unsigned }
      ofRaw raw = .ok o ∧ o.filters = (build steps).filters ∧
      ofRaw raw >>= compile =
        (build steps).compile.map (QueryDocument.mapTolerance Binary64.unsigned) := by
  refine ⟨fun raw => describes_of_perm, ?_, fun raw described => ?_⟩
  · rw [filters_eq_filterMap]
    simp only [get_branches_build]
  · have read := ofRaw_eq_build writable described
    refine ⟨read, rfl, ?_⟩
    rw [read]
    exact compile_mapTolerance Binary64.unsigned (build steps)

/-- A name that is set twice, and a tolerance of zero with a sign. -/
def nalaNotHyena : List Step :=
  [.filter .term .should "name" (.string "Simba"), .page 3,
    .filter .exclude .must "species" (.string "Hyena"),
    .filter .term .should "age" (.ofUInt64 5), .filter .term .should "name" (.string "Nala"),
    .fuzziness (.finite (.zero true)), .sort (.string "age"), .page 2]

/-- The name stands where it was set first, with the value that was set last. -/
theorem nalaNotHyena_read :
    let raw := [("page", .ofUInt64 2), ("sort", .string "age"), ("comment", .null),
      ("mustNotMatch", .object [("species", .string "Hyena")]),
      ("fuzziness", .ofBinary64 (.finite (.zero true))),
      ("shouldMatch", .object [("name", .string "Nala"), ("age", .ofUInt64 5)])]
    (build nalaNotHyena).IsWritable ∧ Describes raw nalaNotHyena ∧
    ofRaw raw = .ok {
      term := { should := some [("name", .string "Nala"), ("age", .ofUInt64 5)] }
      exclude := { must := some [("species", .string "Hyena")] }
      sort := some (.string "age")
      page := 2 } := by
  intro raw
  have writable : (build nalaNotHyena).IsWritable := by
    refine ⟨by decide, by decide, rfl, rfl, ?_⟩
    rintro v ⟨⟩
    rfl
  have described : Describes raw nalaNotHyena := by
    refine ⟨fun kind occurrence => ?_, rfl, rfl, rfl, rfl⟩
    cases kind <;> cases occurrence <;> decide
  obtain ⟨-, -, each⟩ := builds_and_readings_agree nalaNotHyena writable
  exact ⟨writable, described, (each raw described).1⟩

end DocSearch
