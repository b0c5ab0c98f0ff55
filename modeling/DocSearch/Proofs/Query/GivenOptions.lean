import DocSearch.Proofs.Query.Raw
import DocSearch.Proofs.Text.Numeral

/-!
# Options that are given

An object is read by what it gives for a fixed list of options, and a value that counts as nothing
gives nothing. Two objects that give the same are read alike, whatever else they hold and however
they are ordered. The options are gone over in an order of the reading's own; it fails exactly if
one of them has a value that is not of its type, and then names the first of these.
-/
namespace DocSearch

/-! ## Values that count as nothing -/

/-- Null, false, the zeros and the empty string. -/
inductive Json.IsFalsy : Json → Prop
  | null : IsFalsy .null
  | no : IsFalsy (.bool false)
  | zero (word : IsWord 0) : IsFalsy (.number (.integer 0 word))
  | signedZero (negative : Bool) : IsFalsy (.number (.double (.zero negative)))
  | empty : IsFalsy (.string "")

theorem Finite64.isZero_iff (x : Finite64) : x.isZero = true ↔ ∃ negative, x = .zero negative := by
  rw [isZero, Bool.and_eq_true, beq_iff_eq, beq_iff_eq]
  constructor
  · rintro ⟨exponent, fraction⟩
    obtain ⟨negative, _, _⟩ := x
    exact ⟨negative, by rw [zero, mk.injEq]; exact ⟨rfl, Fin.ext exponent, Fin.ext fraction⟩⟩
  · rintro ⟨negative, rfl⟩
    exact ⟨rfl, rfl⟩

theorem RawOptions.isFalsy_iff (v : Json) : isFalsy v = true ↔ v.IsFalsy := by
  constructor
  · intro falsy
    cases v with
    | null => exact .null
    | bool b => cases b with
      | false => exact .no
      | true => cases falsy
    | number n => cases n with
      | integer n word =>
        obtain rfl := (Binary64.ofInt_isZero_iff n).mp falsy
        exact .zero word
      | double x =>
        obtain ⟨negative, rfl⟩ := x.isZero_iff.mp falsy
        exact .signedZero negative
    | string s =>
      obtain rfl : s = "" := by simpa [isFalsy] using falsy
      exact .empty
    | array items => cases falsy
    | object members => cases falsy
  · rintro (_ | _ | word | negative | _)
    · rfl
    · rfl
    · exact (Binary64.ofInt_isZero_iff 0).mpr rfl
    · rfl
    · rfl

namespace Json.Members

variable (raw raw' : Members) (key : String)

/-- The object gives this value for a key. -/
def Gives (v : Json) : Prop := find? key raw = some v ∧ ¬ v.IsFalsy

/-- The key is absent, or its value counts as nothing. -/
def GivesNothing : Prop := find? key raw = none ∨ ∃ v, find? key raw = some v ∧ v.IsFalsy

/-- Both objects give the same value for a key, or neither gives any. -/
def GivesSame : Prop :=
  (∃ v, raw.Gives key v ∧ raw'.Gives key v) ∨ (raw.GivesNothing key ∧ raw'.GivesNothing key)

end Json.Members

namespace RawOptions

variable {raw raw' : Json.Members} {key : String}

theorem given?_eq_some_iff_gives {v : Json} : given? key raw = some v ↔ raw.Gives key v := by
  rw [given?_eq_some_iff, Json.Members.Gives, ← isFalsy_iff, Bool.not_eq_true]

theorem given?_eq_none_iff : given? key raw = none ↔ raw.GivesNothing key := by
  rw [given?, Json.Members.GivesNothing]
  cases Json.Members.find? key raw with
  | none => simp
  | some v => simp [← isFalsy_iff]

/-- What is given is the same exactly if both give the same value, or neither a value. -/
theorem givesSame_iff : raw.GivesSame raw' key ↔ given? key raw = given? key raw' := by
  rw [Json.Members.GivesSame]
  simp only [← given?_eq_some_iff_gives, ← given?_eq_none_iff]
  cases given? key raw <;> cases given? key raw' <;> simp [eq_comm]

end RawOptions

/-! ## Options and their types -/

inductive OptionType where
  /-- Field names with values. -/
  | mapping
  /-- A number from zero up. -/
  | tolerance
  /-- An integer from one up. -/
  | count
  /-- The name of a field. -/
  | name
  deriving DecidableEq, Repr

namespace OptionType

/-- The values of a type. A count may also be spelled out, and has to fit in 64 bits. -/
inductive Admits : OptionType → Json → Prop
  | mapping (members : Json.Members) : Admits .mapping (.object members)
  | integer {n : Int} (word : Json.IsWord n) (nonneg : 0 ≤ n) :
      Admits .tolerance (.number (.integer n word))
  | double {x : Finite64} (nonneg : x.negative = false ∨ x = .zero true) :
      Admits .tolerance (.number (.double x))
  | count {n : Int} (word : Json.IsWord n) (positive : 0 < n) :
      Admits .count (.number (.integer n word))
  | numeral {s : String} {n : Nat} (spelled : Numeral.Spells s.toList n) (positive : 0 < n)
      (bounded : n < UInt64.size) : Admits .count (.string s)
  | name (field : String) : Admits .name (.string field)

/-- What is wrong with a value of another type. -/
def fault : OptionType → Json → OptionFault
  | .mapping => .notMapping
  | .tolerance => .notNonnegative
  | .count => .notPositive
  | .name => .notFieldName

/-- A reader takes the values of the type, and refuses all others as such. -/
def IsReadBy {α : Type} (type : OptionType) (read : Json → Except OptionFault α) : Prop :=
  ∀ v, (type.Admits v ∧ ∃ a, read v = .ok a) ∨
    (¬ type.Admits v ∧ read v = .error (type.fault v))

theorem mapping_isReadBy : mapping.IsReadBy RawOptions.mapping := by
  intro v
  cases v with
  | object members => exact .inl ⟨.mapping members, members, rfl⟩
  | _ => exact .inr ⟨by rintro ⟨⟩, rfl⟩

theorem name_isReadBy : name.IsReadBy RawOptions.fieldName := by
  intro v
  cases v with
  | string s => exact .inl ⟨.name s, s, rfl⟩
  | _ => exact .inr ⟨by rintro ⟨⟩, rfl⟩

theorem tolerance_admits_iff (n : Json.Number) :
    tolerance.Admits (.number n) ↔ n.toBinary64.isNonnegative = true := by
  cases n with
  | integer n word =>
    rw [Json.Number.toBinary64, Binary64.ofInt_isNonnegative_iff word]
    refine ⟨?_, .integer word⟩
    rintro ⟨⟩
    assumption
  | double x =>
    rw [Json.Number.toBinary64, Binary64.isNonnegative, Finite64.isNonnegative, Bool.or_eq_true,
      Bool.not_eq_true', x.isZero_iff]
    constructor
    · rintro (_ | _ | ⟨positive | rfl⟩)
      · exact .inl positive
      · exact .inr ⟨true, rfl⟩
    · rintro (positive | ⟨negative, rfl⟩)
      · exact .double (.inl positive)
      · cases negative
        · exact .double (.inl rfl)
        · exact .double (.inr rfl)

theorem tolerance_isReadBy : tolerance.IsReadBy RawOptions.nonnegative := by
  intro v
  cases v with
  | number n =>
    rw [RawOptions.nonnegative, tolerance_admits_iff]
    split
    next nonneg => exact .inl ⟨nonneg, _, rfl⟩
    next negative => exact .inr ⟨negative, rfl⟩
  | _ => exact .inr ⟨by rintro ⟨⟩, rfl⟩

theorem ofNat_pos_iff {n : Nat} (bounded : n < UInt64.size) : 0 < UInt64.ofNat n ↔ 0 < n := by
  rw [UInt64.lt_iff_toNat_lt, UInt64.toNat_ofNat_of_lt' bounded, UInt64.toNat_zero]

theorem count_admits_iff (v : Json) :
    count.Admits v ↔ ∃ n, RawOptions.unsigned? v = some n ∧ 0 < n := by
  cases v with
  | number n =>
    cases n with
    | integer n word =>
      have bounded : n.toNat < UInt64.size := by
        have below := word.2
        simp only [UInt64.size]
        omega
      have read : RawOptions.unsigned? (.number (.integer n word)) =
          if 0 ≤ n then some (UInt64.ofNat n.toNat) else none := rfl
      rw [read]
      constructor
      · rintro (_ | _ | _ | ⟨_, positive⟩)
        exact ⟨_, if_pos (Int.le_of_lt positive), (ofNat_pos_iff bounded).mpr (by omega)⟩
      · rintro ⟨m, counted, positive⟩
        obtain ⟨nonneg, same⟩ := Option.ite_none_right_eq_some.mp counted
        obtain rfl := Option.some.inj same
        have positive := (ofNat_pos_iff bounded).mp positive
        exact .count word (by omega)
    | double x => exact ⟨by rintro ⟨⟩, by rintro ⟨_, ⟨⟩, _⟩⟩
  | string s =>
    simp only [RawOptions.unsigned?, Option.map_eq_some_iff, Numeral.atMost?_trim_eq_some_iff]
    constructor
    · rintro (_ | _ | _ | _ | ⟨spelled, positive, bounded⟩)
      exact ⟨_, ⟨_, ⟨spelled, Nat.le_sub_one_of_lt bounded⟩, rfl⟩,
        (ofNat_pos_iff bounded).mpr positive⟩
    · rintro ⟨_, ⟨n, ⟨spelled, limited⟩, rfl⟩, positive⟩
      have bounded : n < UInt64.size := Nat.lt_of_le_sub_one (by decide) limited
      exact .numeral spelled ((ofNat_pos_iff bounded).mp positive) bounded
  | _ => exact ⟨by rintro ⟨⟩, by rintro ⟨_, ⟨⟩, _⟩⟩

theorem count_isReadBy : count.IsReadBy RawOptions.positive := by
  intro v
  rw [count_admits_iff, RawOptions.positive]
  cases RawOptions.unsigned? v with
  | none => exact .inr ⟨by simp, rfl⟩
  | some n =>
    by_cases positive : 0 < n
    · exact .inl ⟨⟨n, rfl, positive⟩, n, if_pos positive⟩
    · exact .inr ⟨by simpa using positive, if_neg positive⟩

end OptionType

/-- An option that is checked. -/
structure RawOption where
  key : String
  type : OptionType
  deriving DecidableEq, Repr

namespace RawOption

/-- The value that is given for the option, if there is one, is of its type. -/
def IsValid (raw : Json.Members) (option : RawOption) : Prop :=
  ∀ v, raw.Gives option.key v → option.type.Admits v

/-- The error names the option, and says what is wrong with the value that is given. -/
def IsRefused (raw : Json.Members) (option : RawOption) (e : QueryError) : Prop :=
  ∃ v, raw.Gives option.key v ∧ ¬ option.type.Admits v ∧
    e = .invalidOption option.key (option.type.fault v)

variable {raw : Json.Members}

/-- An option is read by going over it alone. -/
theorem goesOver_optional {α : Type} {type : OptionType} {read : Json → Except OptionFault α}
    (reads : type.IsReadBy read) (key : String) :
    GoesOver (IsValid raw) (IsRefused raw) [⟨key, type⟩]
      (RawOptions.optional read key raw) := by
  have gives : ∀ v, raw.Gives key v ↔ RawOptions.given? key raw = some v :=
    fun v => RawOptions.given?_eq_some_iff_gives.symm
  constructor
  · rw [List.forall_mem_singleton, IsValid, RawOptions.optional]
    simp only [gives]
    cases RawOptions.given? key raw with
    | none => simp
    | some v =>
      obtain ⟨admits, a, good⟩ | ⟨other, bad⟩ := reads v
      · simp [good, admits]
      · simp [bad, other]
  · intro e
    rw [failsFirst_singleton_iff, IsRefused, RawOptions.optional]
    simp only [gives]
    cases RawOptions.given? key raw with
    | none => simp
    | some v =>
      obtain ⟨admits, a, good⟩ | ⟨other, bad⟩ := reads v
      · simp [good, admits]
      · simp [bad, other, eq_comm]

theorem goesOver_readBranches (mustKey shouldKey : String) :
    GoesOver (IsValid raw) (IsRefused raw) [⟨mustKey, .mapping⟩, ⟨shouldKey, .mapping⟩]
      (RawOptions.readBranches mustKey shouldKey raw) :=
  (goesOver_optional OptionType.mapping_isReadBy _).bind fun _ =>
    (goesOver_optional OptionType.mapping_isReadBy _).bind fun _ => goesOver_pure _

end RawOption

open RawOptions RawOption

/-! ## The two readings -/

namespace SearchOptions

/-- The options of a search that are checked, in the order in which they are. -/
def checked : List RawOption :=
  [⟨"mustMatch", .mapping⟩, ⟨"shouldMatch", .mapping⟩,
    ⟨"mustNotMatch", .mapping⟩, ⟨"shouldNotMatch", .mapping⟩,
    ⟨"mustFuzzyMatch", .mapping⟩, ⟨"shouldFuzzyMatch", .mapping⟩,
    ⟨"mustAllMatch", .mapping⟩, ⟨"shouldAllMatch", .mapping⟩,
    ⟨"mustRange", .mapping⟩, ⟨"shouldRange", .mapping⟩,
    ⟨"mustArray", .mapping⟩, ⟨"shouldArray", .mapping⟩,
    ⟨"fuzziness", .tolerance⟩, ⟨"pageSize", .count⟩, ⟨"page", .count⟩]

/-- An order is taken as it is given. -/
def recognized : List String := "sort" :: checked.map RawOption.key

theorem goesOver_ofRaw (raw : Json.Members) :
    GoesOver (IsValid raw) (IsRefused raw) checked (ofRaw raw) :=
  (goesOver_readBranches "mustMatch" "shouldMatch").bind fun _ =>
    (goesOver_readBranches "mustNotMatch" "shouldNotMatch").bind fun _ =>
    (goesOver_readBranches "mustFuzzyMatch" "shouldFuzzyMatch").bind fun _ =>
    (goesOver_readBranches "mustAllMatch" "shouldAllMatch").bind fun _ =>
    (goesOver_readBranches "mustRange" "shouldRange").bind fun _ =>
    (goesOver_readBranches "mustArray" "shouldArray").bind fun _ =>
    (goesOver_optional OptionType.tolerance_isReadBy _).bind fun _ =>
    (goesOver_optional OptionType.count_isReadBy _).bind fun _ =>
    (goesOver_optional OptionType.count_isReadBy _).bind fun _ => goesOver_pure _

theorem ofRaw_eq_of_givesSame {raw raw' : Json.Members}
    (same : ∀ key ∈ recognized, raw.GivesSame raw' key) : ofRaw raw = ofRaw raw' := by
  have given : ∀ key ∈ recognized, given? key raw = given? key raw' :=
    fun key member => givesSame_iff.mp (same key member)
  rw [ofRaw, ofRaw,
    readBranches_congr (given "mustMatch" (by decide)) (given "shouldMatch" (by decide)),
    readBranches_congr (given "mustNotMatch" (by decide)) (given "shouldNotMatch" (by decide)),
    readBranches_congr (given "mustFuzzyMatch" (by decide)) (given "shouldFuzzyMatch" (by decide)),
    readBranches_congr (given "mustAllMatch" (by decide)) (given "shouldAllMatch" (by decide)),
    readBranches_congr (given "mustRange" (by decide)) (given "shouldRange" (by decide)),
    readBranches_congr (given "mustArray" (by decide)) (given "shouldArray" (by decide)),
    optional_congr nonnegative (given "fuzziness" (by decide)),
    optional_congr positive (given "pageSize" (by decide)),
    optional_congr positive (given "page" (by decide)), given "sort" (by decide)]

end SearchOptions

namespace AggregationOptions

/-- The options of an aggregation, in the order in which they are checked. -/
def checked : List RawOption :=
  [⟨"groupBy", .name⟩, ⟨"mustMatch", .mapping⟩, ⟨"shouldMatch", .mapping⟩,
    ⟨"mustFuzzyMatch", .mapping⟩, ⟨"shouldFuzzyMatch", .mapping⟩,
    ⟨"mustRange", .mapping⟩, ⟨"shouldRange", .mapping⟩,
    ⟨"fuzziness", .tolerance⟩, ⟨"pageSize", .count⟩, ⟨"page", .count⟩]

def recognized : List String := checked.map RawOption.key

theorem goesOver_ofRaw (raw : Json.Members) :
    GoesOver (IsValid raw) (IsRefused raw) checked (ofRaw raw) :=
  (goesOver_optional OptionType.name_isReadBy _).bind fun _ =>
    (goesOver_readBranches "mustMatch" "shouldMatch").bind fun _ =>
    (goesOver_readBranches "mustFuzzyMatch" "shouldFuzzyMatch").bind fun _ =>
    (goesOver_readBranches "mustRange" "shouldRange").bind fun _ =>
    (goesOver_optional OptionType.tolerance_isReadBy _).bind fun _ =>
    (goesOver_optional OptionType.count_isReadBy _).bind fun _ =>
    (goesOver_optional OptionType.count_isReadBy _).bind fun _ => goesOver_pure _

theorem ofRaw_eq_of_givesSame {raw raw' : Json.Members}
    (same : ∀ key ∈ recognized, raw.GivesSame raw' key) : ofRaw raw = ofRaw raw' := by
  have given : ∀ key ∈ recognized, given? key raw = given? key raw' :=
    fun key member => givesSame_iff.mp (same key member)
  rw [ofRaw, ofRaw,
    readBranches_congr (given "mustMatch" (by decide)) (given "shouldMatch" (by decide)),
    readBranches_congr (given "mustFuzzyMatch" (by decide)) (given "shouldFuzzyMatch" (by decide)),
    readBranches_congr (given "mustRange" (by decide)) (given "shouldRange" (by decide)),
    optional_congr fieldName (given "groupBy" (by decide)),
    optional_congr nonnegative (given "fuzziness" (by decide)),
    optional_congr positive (given "pageSize" (by decide)),
    optional_congr positive (given "page" (by decide))]

end AggregationOptions

/-- A reading depends on what is given for its options and on nothing else: two objects that give
the same for each of them are read as the same record or refused with the same error. Reading fails
exactly if one of the checked options is not valid, and then with the first of them. -/
theorem readings_depend_on_given_options :
    (∀ raw raw' : Json.Members,
      (∀ key ∈ SearchOptions.recognized, raw.GivesSame raw' key) →
        SearchOptions.ofRaw raw = SearchOptions.ofRaw raw') ∧
    (∀ raw raw' : Json.Members,
      (∀ key ∈ AggregationOptions.recognized, raw.GivesSame raw' key) →
        AggregationOptions.ofRaw raw = AggregationOptions.ofRaw raw') ∧
    ∀ raw : Json.Members,
      ((∃ e, SearchOptions.ofRaw raw = .error e) ↔
        ∃ option ∈ SearchOptions.checked, ¬ option.IsValid raw) ∧
      (∀ e, SearchOptions.ofRaw raw = .error e ↔
        FailsFirst (IsValid raw) (IsRefused raw) SearchOptions.checked e) ∧
      ((∃ e, AggregationOptions.ofRaw raw = .error e) ↔
        ∃ option ∈ AggregationOptions.checked, ¬ option.IsValid raw) ∧
      (∀ e, AggregationOptions.ofRaw raw = .error e ↔
        FailsFirst (IsValid raw) (IsRefused raw) AggregationOptions.checked e) := by
  refine ⟨fun raw raw' same => SearchOptions.ofRaw_eq_of_givesSame same,
    fun raw raw' same => AggregationOptions.ofRaw_eq_of_givesSame same, fun raw => ?_⟩
  have search := SearchOptions.goesOver_ofRaw raw
  have aggregation := AggregationOptions.goesOver_ofRaw raw
  exact ⟨search.fails_iff, search.error_iff, aggregation.fails_iff, aggregation.error_iff⟩

/-- A page and a species, with an option that no reading has. -/
def secondPage : Json.Members :=
  [("page", .string " +2 "), ("highlight", .bool true), ("pageSize", .ofUInt64 0),
    ("mustMatch", .object [("species", .string "Lion")])]

/-- The same in another order, with an option that counts as not given. -/
def secondPageAgain : Json.Members :=
  [("mustMatch", .object [("species", .string "Lion")]),
    ("fuzziness", .number (.double (.zero true))), ("page", .string " +2 ")]

/-- No page, and an age without bounds, which is checked before the page. -/
def ageUnbounded : Json.Members := [("page", .string "-1"), ("mustRange", .string "age")]

/-- Order and further options make no difference; of two faults the one that is checked first is
reported. -/
theorem secondPage_read_again :
    SearchOptions.ofRaw secondPage = SearchOptions.ofRaw secondPageAgain ∧
    AggregationOptions.ofRaw secondPage = AggregationOptions.ofRaw secondPageAgain ∧
    FailsFirst (IsValid ageUnbounded) (IsRefused ageUnbounded) SearchOptions.checked
      (.invalidOption "mustRange" (.notMapping (.string "age"))) := by
  obtain ⟨searches, aggregations, refusals⟩ := readings_depend_on_given_options
  have same : ∀ key ∈ SearchOptions.recognized ++ AggregationOptions.recognized,
      secondPage.GivesSame secondPageAgain key := by
    simp only [givesSame_iff]
    decide
  refine ⟨searches _ _ fun key member => same key (List.mem_append_left _ member),
    aggregations _ _ fun key member => same key (List.mem_append_right _ member), ?_⟩
  exact ((refusals ageUnbounded).2.1 _).mp (by decide)

end DocSearch
