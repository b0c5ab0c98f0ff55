import DocSearch.Proofs.Number.Binary64
import DocSearch.Proofs.Result
import DocSearch.Query.Raw

/-!
# What a reading depends on

Each option is read from what is given under its own name. Reading an object as options succeeds
exactly if reading every option does, and then the record holds what was read for each, or the
default.
-/
namespace DocSearch

namespace RawOptions

section
variable {α : Type} {raw raw' : Json.Members} {key : String}

/-- An option is read from what is given for it, and from nothing else. -/
theorem optional_congr (read : Json → Except OptionFault α)
    (same : given? key raw = given? key raw') : optional read key raw = optional read key raw' := by
  rw [optional, optional, same]

theorem optional_of_not_given (read : Json → Except OptionFault α)
    (absent : given? key raw = none) : optional read key raw = .ok none := by
  rw [optional, absent]

theorem optional_of_given {read : Json → Except OptionFault α} {v : Json} {a : α}
    (given : given? key raw = some v) (good : read v = .ok a) :
    optional read key raw = .ok (some a) := by
  rw [optional, given]
  simp only [good]

theorem optional_eq_some_iff {read : Json → Except OptionFault α} {a : α} :
    optional read key raw = .ok (some a) ↔ ∃ v, given? key raw = some v ∧ read v = .ok a := by
  rw [optional]
  cases given? key raw with
  | none => simp
  | some v => cases found : read v <;> simp [found]

theorem given?_eq_some_iff {v : Json} :
    given? key raw = some v ↔ Json.Members.find? key raw = some v ∧ isFalsy v = false := by
  simp [given?, Option.filter_eq_some_iff]

theorem readBranches_congr {mustKey shouldKey : String}
    (must : given? mustKey raw = given? mustKey raw')
    (should : given? shouldKey raw = given? shouldKey raw') :
    readBranches mustKey shouldKey raw = readBranches mustKey shouldKey raw' := by
  rw [readBranches, readBranches, optional_congr mapping must, optional_congr mapping should]

theorem readBranches_of_not_given {mustKey shouldKey : String}
    (must : given? mustKey raw = none) (should : given? shouldKey raw = none) :
    readBranches mustKey shouldKey raw = .ok {} := by
  rw [readBranches, optional_of_not_given mapping must, optional_of_not_given mapping should]
  rfl

/-! What kind of value an option reads. -/

theorem pos_of_optional_positive {value : Option UInt64}
    (read : optional positive key raw = .ok value) : ∀ n ∈ value, 0 < n := by
  rintro n ⟨⟩
  obtain ⟨v, -, counted⟩ := optional_eq_some_iff.mp read
  rw [positive] at counted
  split at counted
  next m _ =>
    split at counted
    next positive => exact Except.ok.inj counted ▸ positive
    next => cases counted
  next => cases counted

theorem finite_of_optional_nonnegative {value : Option Binary64}
    (read : optional nonnegative key raw = .ok value) :
    ∀ x ∈ value, ∃ y : Finite64, x = .finite y ∧ y.negative = false := by
  rintro x ⟨⟩
  obtain ⟨v, given, measured⟩ := optional_eq_some_iff.mp read
  have truthy := (given?_eq_some_iff.mp given).2
  cases v with
  | number n =>
    rw [nonnegative] at measured
    split at measured
    next nonneg =>
      obtain rfl := Except.ok.inj measured
      obtain ⟨y, same⟩ : ∃ y, n.toBinary64 = .finite y := by
        cases n with
        | integer n word =>
          obtain ⟨y, same, -⟩ := Binary64.exists_ofInt word
          exact ⟨y, same⟩
        | double y => exact ⟨y, rfl⟩
      rw [isFalsy, same] at truthy
      rw [same] at nonneg
      refine ⟨y, same, ?_⟩
      simpa [Binary64.isNonnegative, Finite64.isNonnegative, show y.isZero = false from truthy]
        using nonneg
    next => cases measured
  | _ => cases measured

/-! What an option reads from a value that was written for it. -/

theorem optional_mapping {fields : Option Json.Members}
    (written : Json.Members.find? key raw = fields.map .object) :
    optional mapping key raw = .ok fields := by
  cases fields with
  | none => exact optional_of_not_given mapping (by simp [given?, written])
  | some members => exact optional_of_given (given?_eq_some_iff.mpr ⟨written, rfl⟩) rfl

theorem readBranches_of_mappings {mustKey shouldKey : String} {b : Branches}
    (must : Json.Members.find? mustKey raw = b.must.map .object)
    (should : Json.Members.find? shouldKey raw = b.should.map .object) :
    readBranches mustKey shouldKey raw = .ok b := by
  rw [readBranches, optional_mapping must, optional_mapping should]
  rfl

theorem isFalsy_ofUInt64_iff (n : UInt64) : isFalsy (.ofUInt64 n) = true ↔ n = 0 := by
  have zero : ((n.toNat : Int) = 0) ↔ n = 0 := by
    rw [← UInt64.toNat_inj]
    exact Int.natCast_eq_zero
  rw [← zero, ← Binary64.ofInt_isZero_iff]
  rfl

theorem optional_positive {value : Option UInt64}
    (written : Json.Members.find? key raw = value.map .ofUInt64) (fits : ∀ n ∈ value, 0 < n) :
    optional positive key raw = .ok value := by
  cases value with
  | none => exact optional_of_not_given positive (by simp [given?, written])
  | some n =>
    have nonzero : n ≠ 0 := fun zero => absurd (fits n rfl) (by simp [zero])
    have counted : isFalsy (.ofUInt64 n) = false := by
      simpa using mt (isFalsy_ofUInt64_iff n).mp nonzero
    have read : unsigned? (.ofUInt64 n) = some n := by
      simp [unsigned?, Json.ofUInt64, Json.Number.ofUInt64, Json.Number.toUInt64?]
    refine optional_of_given (given?_eq_some_iff.mpr ⟨written, counted⟩) ?_
    rw [positive, read]
    exact if_pos (fits n rfl)

/-- A zero is not given. -/
theorem optional_nonnegative {value : Option Binary64}
    (written : Json.Members.find? key raw = value.map .ofBinary64)
    (fits : ∀ x ∈ value, x.isFinite = true ∧ x.isNonnegative = true) :
    optional nonnegative key raw = .ok (value.filter fun x => !x.isZero) := by
  cases value with
  | none => exact optional_of_not_given nonnegative (by simp [given?, written])
  | some x =>
    obtain ⟨finite, nonneg⟩ := fits x rfl
    cases x with
    | finite x =>
      by_cases zero : (Binary64.finite x).isZero = true
      · rw [Option.filter_some, if_neg (by simp [zero])]
        refine optional_of_not_given nonnegative ?_
        rw [given?, written, Option.map_some, Option.filter_some, if_neg]
        simpa [isFalsy, Json.ofBinary64, Json.Number.toBinary64] using zero
      · rw [Bool.not_eq_true] at zero
        rw [Option.filter_some, if_pos (by simp [zero])]
        refine optional_of_given (given?_eq_some_iff.mpr ⟨written, zero⟩) ?_
        rw [Json.ofBinary64, nonnegative, Json.Number.toBinary64, if_pos nonneg]
    | _ => cases finite

end

theorem fieldName_given {raw : Json.Members} {field : String}
    (given : Json.Members.find? "groupBy" raw = some (.string field)) (nonempty : field ≠ "") :
    optional fieldName "groupBy" raw = .ok (some field) :=
  optional_of_given (given?_eq_some_iff.mpr ⟨given, by simpa [isFalsy] using nonempty⟩) rfl

end RawOptions

open RawOptions

/-- Filters are read under the names that the errors of compiling give them. -/
theorem SearchOptions.ofRaw_eq_ok_iff (raw : Json.Members) (o : SearchOptions) :
    ofRaw raw = .ok o ↔
      (∀ kind : FilterKind,
        readBranches (kind.key .must) (kind.key .should) raw = .ok (o.branches kind)) ∧
      (∃ f, optional nonnegative "fuzziness" raw = .ok f ∧
        o.fuzziness = f.getD defaultFuzziness) ∧
      o.sort = given? "sort" raw ∧
      (∃ n, optional positive "pageSize" raw = .ok n ∧ o.pageSize = n.getD defaultPageSize) ∧
      (∃ n, optional positive "page" raw = .ok n ∧ o.page = n.getD defaultPage) := by
  constructor
  · intro read
    simp only [ofRaw, bind_eq_ok_iff] at read
    obtain ⟨term, readTerm, exclude, readExclude, fuzzy, readFuzzy, anywhere, readAnywhere, range,
      readRange, oneOf, readOneOf, fuzziness, readFuzziness, pageSize, readPageSize, page, readPage,
      built⟩ := read
    obtain rfl := Except.ok.inj built
    refine ⟨fun kind => ?_, ⟨_, readFuzziness, rfl⟩, rfl, ⟨_, readPageSize, rfl⟩, ⟨_, readPage, rfl⟩⟩
    cases kind <;> assumption
  · rintro ⟨kinds, ⟨f, readFuzziness, fuzziness⟩, sort, ⟨m, readPageSize, pageSize⟩, n, readPage,
      page⟩
    have readTerm : readBranches "mustMatch" "shouldMatch" raw = .ok o.term := kinds .term
    have readExclude : readBranches "mustNotMatch" "shouldNotMatch" raw = .ok o.exclude :=
      kinds .exclude
    have readFuzzy : readBranches "mustFuzzyMatch" "shouldFuzzyMatch" raw = .ok o.fuzzy :=
      kinds .fuzzy
    have readAnywhere : readBranches "mustAllMatch" "shouldAllMatch" raw = .ok o.anywhere :=
      kinds .anywhere
    have readRange : readBranches "mustRange" "shouldRange" raw = .ok o.range := kinds .range
    have readOneOf : readBranches "mustArray" "shouldArray" raw = .ok o.oneOf := kinds .oneOf
    rw [ofRaw, readTerm, readExclude, readFuzzy, readAnywhere, readRange, readOneOf, readFuzziness,
      readPageSize, readPage]
    obtain ⟨_, _, _, _, _, _, _, _, _, _⟩ := o
    dsimp only at fuzziness sort pageSize page
    subst fuzziness sort pageSize page
    rfl

theorem AggregationOptions.ofRaw_eq_ok_iff (raw : Json.Members) (o : AggregationOptions) :
    ofRaw raw = .ok o ↔
      optional fieldName "groupBy" raw = .ok o.groupBy ∧
      readBranches "mustMatch" "shouldMatch" raw = .ok o.term ∧
      readBranches "mustFuzzyMatch" "shouldFuzzyMatch" raw = .ok o.fuzzy ∧
      readBranches "mustRange" "shouldRange" raw = .ok o.range ∧
      (∃ f, optional nonnegative "fuzziness" raw = .ok f ∧
        o.fuzziness = f.getD defaultFuzziness) ∧
      (∃ n, optional positive "pageSize" raw = .ok n ∧ o.pageSize = n.getD defaultPageSize) ∧
      (∃ n, optional positive "page" raw = .ok n ∧ o.page = n.getD defaultPage) := by
  constructor
  · intro read
    simp only [ofRaw, bind_eq_ok_iff] at read
    obtain ⟨groupBy, readGroupBy, term, readTerm, fuzzy, readFuzzy, range, readRange, fuzziness,
      readFuzziness, pageSize, readPageSize, page, readPage, built⟩ := read
    obtain rfl := Except.ok.inj built
    exact ⟨readGroupBy, readTerm, readFuzzy, readRange, ⟨_, readFuzziness, rfl⟩,
      ⟨_, readPageSize, rfl⟩, ⟨_, readPage, rfl⟩⟩
  · rintro ⟨readGroupBy, readTerm, readFuzzy, readRange, ⟨f, readFuzziness, fuzziness⟩,
      ⟨m, readPageSize, pageSize⟩, n, readPage, page⟩
    rw [ofRaw, readGroupBy, readTerm, readFuzzy, readRange, readFuzziness, readPageSize, readPage]
    obtain ⟨_, _, _, _, _, _, _⟩ := o
    dsimp only at fuzziness pageSize page
    subst fuzziness pageSize page
    rfl

end DocSearch
