import DocSearch.Proofs.Query.GivenOptions
import DocSearch.Proofs.Reply.Completeness

/-!
# The options of a page

The number of a page and its size are counts of 64 bits from one up. Each is given as an integer or
spelled out as a numeral, white space around it or not, and is read as exactly that number; if
nothing is given it has its default. Any other value is refused under the name of the option, once
the options checked before it have passed. So there is no value that is wrapped, cut off or rounded.
-/
namespace DocSearch

/-- The unsigned numbers of 64 bits that a value stands for: an integer for itself, and a string for
the number it spells. A double stands for none, whatever its value. -/
inductive Json.Denotes : Json → Nat → Prop
  | integer {n : Nat} (word : IsWord n) : Denotes (.number (.integer n word)) n
  | numeral {s : String} {n : Nat} (spelled : Numeral.Spells s.toList n)
      (bounded : n ≤ UInt64.size - 1) : Denotes (.string s) n

namespace Json.Members

variable (raw : Members) (key : String)

/-- The object gives a count for the key. -/
def GivesCount (n : Nat) : Prop := ∃ v, find? key raw = some v ∧ v.Denotes n ∧ 1 ≤ n

/-- The object gives a value for the key, and it is no count. -/
def GivesNoCount (v : Json) : Prop :=
  find? key raw = some v ∧ ¬ v.IsFalsy ∧ ∀ n, v.Denotes n → n = 0

end Json.Members

namespace RawOptions

/-! ## Values -/

theorem unsigned?_eq_some_iff (v : Json) (n : UInt64) :
    unsigned? v = some n ↔ v.Denotes n.toNat := by
  cases v with
  | number k =>
    have read : unsigned? (.number k) = (Json.number k).toUInt64? := rfl
    rw [read, Reply.toUInt64?_eq_some_iff]
    constructor
    · intro same
      rw [same]
      exact .integer _
    · generalize same : n.toNat = m
      intro denoted
      cases denoted with
      | integer word =>
        subst same
        rfl
  | string s =>
    have read : unsigned? (.string s) =
        (Numeral.atMost? (UInt64.size - 1) (Blank.trim s.toList)).map UInt64.ofNat := rfl
    simp only [read, Option.map_eq_some_iff, Numeral.atMost?_trim_eq_some_iff]
    constructor
    · intro spelled
      obtain ⟨m, ⟨spelled, bounded⟩, rfl⟩ := spelled
      have small : m < UInt64.size := Nat.lt_of_le_sub_one (by decide) bounded
      rw [UInt64.toNat_ofNat_of_lt' small]
      exact .numeral spelled bounded
    · generalize same : n.toNat = m
      intro denoted
      cases denoted with
      | numeral spelled bounded =>
        refine ⟨m, ⟨spelled, bounded⟩, ?_⟩
        rw [← same, UInt64.ofNat_toNat]
  | null | bool | array | object =>
    constructor
    · intro read
      cases read
    · intro denoted
      cases denoted

theorem positive_eq_ok_iff (v : Json) (n : UInt64) :
    positive v = .ok n ↔ v.Denotes n.toNat ∧ 1 ≤ n.toNat := by
  rw [← unsigned?_eq_some_iff]
  have counts : 0 < n ↔ 1 ≤ n.toNat := by
    rw [UInt64.lt_iff_toNat_lt, UInt64.toNat_zero]
    omega
  rw [← counts]
  unfold positive
  cases unsigned? v with
  | none => simp
  | some m =>
    by_cases above : 0 < m
    · simp only [if_pos above, Except.ok.injEq, Option.some.injEq]
      constructor
      · intro same
        exact ⟨same, same ▸ above⟩
      · intro same
        exact same.1
    · simp only [if_neg above, Option.some.injEq]
      constructor
      · intro read
        cases read
      · intro same
        exact absurd (same.1 ▸ same.2) above

end RawOptions

theorem Json.Denotes.lt_size {v : Json} {n : Nat} (denoted : v.Denotes n) : n < UInt64.size := by
  cases denoted with
  | integer word =>
    have below := word.2
    simp only [UInt64.size]
    omega
  | numeral spelled bounded => exact Nat.lt_of_le_sub_one (by decide) bounded

/-- A value stands for one number at most. -/
theorem Json.Denotes.eq {v : Json} {m n : Nat} (first : v.Denotes m) (second : v.Denotes n) :
    m = n := by
  have read := (RawOptions.unsigned?_eq_some_iff v (.ofNat m)).mpr
    (by rwa [UInt64.toNat_ofNat_of_lt' first.lt_size])
  have again := (RawOptions.unsigned?_eq_some_iff v (.ofNat n)).mpr
    (by rwa [UInt64.toNat_ofNat_of_lt' second.lt_size])
  have same := congrArg UInt64.toNat (Option.some.inj (read.symm.trans again))
  rwa [UInt64.toNat_ofNat_of_lt' first.lt_size, UInt64.toNat_ofNat_of_lt' second.lt_size] at same

theorem OptionType.count_admits_iff_denotes (v : Json) :
    count.Admits v ↔ ∃ n, v.Denotes n ∧ 1 ≤ n := by
  rw [count_admits_iff]
  simp only [RawOptions.unsigned?_eq_some_iff]
  constructor
  · intro counted
    obtain ⟨n, denoted, above⟩ := counted
    rw [UInt64.lt_iff_toNat_lt] at above
    exact ⟨n.toNat, denoted, above⟩
  · intro counted
    obtain ⟨n, denoted, above⟩ := counted
    refine ⟨.ofNat n, ?_, (ofNat_pos_iff denoted.lt_size).mpr above⟩
    rwa [UInt64.toNat_ofNat_of_lt' denoted.lt_size]

/-- A count never counts as nothing. -/
theorem Json.Denotes.not_isFalsy {v : Json} {n : Nat} (denoted : v.Denotes n) (above : 1 ≤ n) :
    ¬ v.IsFalsy := by
  rw [← RawOptions.isFalsy_iff]
  intro falsy
  cases denoted with
  | integer word =>
    have zero := (Binary64.ofInt_isZero_iff n).mp falsy
    omega
  | numeral spelled =>
    obtain ⟨front, sign, digits, back, whole, -, -, -, nonempty, -⟩ := spelled
    simp only [RawOptions.isFalsy, String.isEmpty_iff] at falsy
    rw [falsy] at whole
    simp only [String.toList_empty, List.nil_eq, List.append_eq_nil_iff] at whole
    exact nonempty whole.1.2.2

/-! ## One option -/

namespace RawOptions

section
variable {raw : Json.Members} {key : String}

theorem optional_eq_none_iff {α : Type} {read : Json → Except OptionFault α} :
    optional read key raw = .ok none ↔ given? key raw = none := by
  unfold optional
  cases given? key raw with
  | none => simp
  | some v => cases found : read v <;> simp [found]

theorem optional_positive_eq_some_iff (n : UInt64) :
    optional positive key raw = .ok (some n) ↔ raw.GivesCount key n.toNat := by
  rw [optional_eq_some_iff]
  simp only [given?_eq_some_iff_gives, positive_eq_ok_iff]
  constructor
  · intro given
    obtain ⟨v, ⟨found, -⟩, denoted⟩ := given
    exact ⟨v, found, denoted⟩
  · intro given
    obtain ⟨v, found, denoted, above⟩ := given
    exact ⟨v, ⟨found, denoted.not_isFalsy above⟩, denoted, above⟩

end

end RawOptions

namespace RawOption

variable {raw : Json.Members} {key : String}

/-- A value that is given for a count and that the type does not admit is none. -/
theorem givesNoCount_iff (v : Json) :
    raw.GivesNoCount key v ↔ raw.Gives key v ∧ ¬ OptionType.count.Admits v := by
  rw [OptionType.count_admits_iff_denotes, Json.Members.Gives, Json.Members.GivesNoCount, and_assoc]
  refine and_congr_right fun _ => and_congr_right fun _ => ?_
  simp only [not_exists, not_and]
  refine forall_congr' fun n => forall_congr' fun _ => ?_
  omega

theorem isRefused_count_iff (e : QueryError) :
    IsRefused raw ⟨key, .count⟩ e ↔
      ∃ v, raw.GivesNoCount key v ∧ e = .invalidOption key (.notPositive v) := by
  unfold IsRefused
  simp only [givesNoCount_iff, and_assoc]
  rfl

theorem isValid_count_iff :
    IsValid raw ⟨key, .count⟩ ↔ raw.GivesNothing key ∨ ∃ n, raw.GivesCount key n := by
  unfold IsValid
  simp only [OptionType.count_admits_iff_denotes]
  constructor
  · intro valid
    cases given : RawOptions.given? key raw with
    | none => exact .inl (RawOptions.given?_eq_none_iff.mp given)
    | some v =>
      have gives := RawOptions.given?_eq_some_iff_gives.mp given
      obtain ⟨n, counted⟩ := valid v gives
      exact .inr ⟨n, v, gives.1, counted⟩
  · intro choice v gives
    obtain nothing | ⟨n, v', found, counted⟩ := choice
    · rw [← RawOptions.given?_eq_none_iff, RawOptions.given?_eq_some_iff_gives.mpr gives] at nothing
      cases nothing
    · obtain rfl := Option.some.inj (gives.1.symm.trans found)
      exact ⟨n, counted⟩

/-! ## One option among others -/

section
variable {checked : List RawOption} {option : RawOption} (member : option ∈ checked)
  (distinct : (checked.map RawOption.key).Nodup)
include member distinct

/-- The options that are checked, around one of them. -/
theorem exists_around : ∃ before after, checked = before ++ option :: after ∧
    (∀ x ∈ before, x.key ≠ option.key) ∧ ∀ x ∈ after, x.key ≠ option.key := by
  obtain ⟨before, after, rfl⟩ := List.append_of_mem member
  refine ⟨before, after, rfl, ?_, ?_⟩
  · intro x earlier same
    rw [List.map_append, List.nodup_append] at distinct
    exact distinct.2.2 x.key (List.mem_map_of_mem earlier) option.key (by simp) same
  · intro x later same
    rw [List.map_append, List.nodup_append, List.map_cons, List.nodup_cons] at distinct
    exact distinct.2.1.1 (same ▸ List.mem_map_of_mem later)

/-- An error that names an option comes from it, once the options before it have passed. -/
theorem failsFirst_iff_of_key (e : QueryError) (named : e.key = option.key) :
    FailsFirst (IsValid raw) (IsRefused raw) checked e ↔
      (∀ x ∈ checked.takeWhile (·.key ≠ option.key), x.IsValid raw) ∧ option.IsRefused raw e := by
  have nameless : ∀ options : List RawOption, (∀ x ∈ options, x.key ≠ option.key) →
      ¬ FailsFirst (IsValid raw) (IsRefused raw) options e := by
    intro options others fails
    obtain ⟨front, x, back, rfl, -, v, -, -, rfl⟩ := fails
    exact others x (by simp) named
  obtain ⟨before, after, rfl, earlier, later⟩ := exists_around member distinct
  have front : (before ++ option :: after).takeWhile (·.key ≠ option.key) = before := by
    rw [List.takeWhile_append_of_pos (by simpa using earlier)]
    simp
  rw [front, failsFirst_append_iff, failsFirst_cons_iff, or_iff_right (nameless before earlier)]
  refine and_congr_right fun _ => or_iff_left ?_
  intro fails
  exact nameless after later fails.2

end

end RawOption

open RawOptions RawOption

/-- How a reading deals with one of its options, a count with a default. -/
structure ReadsCount {ω : Type} (raw : Json.Members) (checked : List RawOption)
    (reading : Except QueryError ω) (key : String) (fallback : UInt64) (count : ω → UInt64) :
    Prop where
  /-- The record holds the count that is given, or the default if nothing is. -/
  read : ∀ o, reading = .ok o → ∀ n, (count o).toNat = n ↔
    (raw.GivesNothing key ∧ n = fallback.toNat) ∨ raw.GivesCount key n
  /-- Nothing or a count has to be given, and the other options have to be valid. -/
  accepted : (∃ o, reading = .ok o) ↔
    (raw.GivesNothing key ∨ ∃ n, raw.GivesCount key n) ∧
      ∀ option ∈ checked, option.key ≠ key → option.IsValid raw
  /-- Any other value is refused under the name of the option, unless one checked earlier is. -/
  refused : ∀ e, e.key = key → (reading = .error e ↔
    (∀ option ∈ checked.takeWhile (·.key ≠ key), option.IsValid raw) ∧
      ∃ v, raw.GivesNoCount key v ∧ e = .invalidOption key (.notPositive v))

/-- A reading that goes over its options deals so with each count among them, if it takes it over
into the record. -/
theorem readsCount_of_goesOver {ω : Type} {raw : Json.Members} {checked : List RawOption}
    {reading : Except QueryError ω} {key : String} {fallback : UInt64} {count : ω → UInt64}
    (goes : GoesOver (IsValid raw) (IsRefused raw) checked reading)
    (member : ⟨key, .count⟩ ∈ checked) (distinct : (checked.map RawOption.key).Nodup)
    (taken : ∀ o, reading = .ok o → ∃ n, optional positive key raw = .ok n ∧
      count o = n.getD fallback) : ReadsCount raw checked reading key fallback count where
  read := by
    intro o good n
    obtain ⟨given, found, held⟩ := taken o good
    cases given with
    | none =>
      have nothing := given?_eq_none_iff.mp (optional_eq_none_iff.mp found)
      have uncounted : ¬ raw.GivesCount key n := by
        intro counted
        obtain ⟨v, known, denoted, above⟩ := counted
        have given := given?_eq_some_iff_gives.mpr ⟨known, denoted.not_isFalsy above⟩
        rw [optional_eq_none_iff.mp found] at given
        cases given
      rw [held, Option.getD_none, or_iff_left uncounted, and_iff_right nothing, eq_comm]
    | some m =>
      have counted := (optional_positive_eq_some_iff m).mp found
      have something : ¬ raw.GivesNothing key := by
        intro nothing
        rw [optional_eq_none_iff.mpr (given?_eq_none_iff.mpr nothing)] at found
        cases found
      rw [held, Option.getD_some, or_iff_right (not_and.mpr fun nothing => absurd nothing something)]
      constructor
      · intro same
        exact same ▸ counted
      · intro counted'
        obtain ⟨v, known, denoted, -⟩ := counted
        obtain ⟨v', known', denoted', -⟩ := counted'
        obtain rfl := Option.some.inj (known.symm.trans known')
        exact denoted.eq denoted'
  accepted := by
    rw [goes.ok_iff, ← isValid_count_iff]
    constructor
    · intro all
      exact ⟨all _ member, fun option among _ => all option among⟩
    · intro valid option among
      by_cases same : option.key = key
      · obtain ⟨before, after, around, earlier, later⟩ := exists_around member distinct
        rw [around, List.mem_append, List.mem_cons] at among
        obtain early | rfl | late := among
        · exact absurd same (earlier option early)
        · exact valid.1
        · exact absurd same (later option late)
      · exact valid.2 option among same
  refused := by
    intro e named
    rw [goes.error_iff, failsFirst_iff_of_key member distinct e named, isRefused_count_iff]

/-- Each of the two options of a page takes its default exactly if nothing is given for it, a number
exactly if a value is given that stands for it, and is refused exactly if the value stands for none.
Both readings deal so with both options. -/
theorem page_options_read_as_given (raw : Json.Members) :
    (∀ key, (optional positive key raw = .ok none ↔ raw.GivesNothing key) ∧
      (∀ n, optional positive key raw = .ok (some n) ↔ raw.GivesCount key n.toNat) ∧
      ∀ e, optional positive key raw = .error e ↔
        ∃ v, raw.GivesNoCount key v ∧ e = .invalidOption key (.notPositive v)) ∧
    ReadsCount raw SearchOptions.checked (SearchOptions.ofRaw raw) "pageSize" defaultPageSize
      SearchOptions.pageSize ∧
    ReadsCount raw SearchOptions.checked (SearchOptions.ofRaw raw) "page" defaultPage
      SearchOptions.page ∧
    ReadsCount raw AggregationOptions.checked (AggregationOptions.ofRaw raw) "pageSize"
      defaultPageSize AggregationOptions.pageSize ∧
    ReadsCount raw AggregationOptions.checked (AggregationOptions.ofRaw raw) "page" defaultPage
      AggregationOptions.page := by
  have search := SearchOptions.goesOver_ofRaw raw
  have aggregation := AggregationOptions.goesOver_ofRaw raw
  refine ⟨?_, ?_, ?_, ?_, ?_⟩
  · intro key
    have goes : GoesOver (IsValid raw) (IsRefused raw) [⟨key, .count⟩]
        (optional positive key raw) := goesOver_optional OptionType.count_isReadBy key
    refine ⟨?_, optional_positive_eq_some_iff, ?_⟩
    · rw [optional_eq_none_iff, given?_eq_none_iff]
    · intro e
      rw [goes.error_iff, failsFirst_singleton_iff, isRefused_count_iff]
  · refine readsCount_of_goesOver search (by decide) (by decide) ?_
    intro o good
    exact ((SearchOptions.ofRaw_eq_ok_iff raw o).mp good).2.2.2.1
  · refine readsCount_of_goesOver search (by decide) (by decide) ?_
    intro o good
    exact ((SearchOptions.ofRaw_eq_ok_iff raw o).mp good).2.2.2.2
  · refine readsCount_of_goesOver aggregation (by decide) (by decide) ?_
    intro o good
    exact ((AggregationOptions.ofRaw_eq_ok_iff raw o).mp good).2.2.2.2.2.1
  · refine readsCount_of_goesOver aggregation (by decide) (by decide) ?_
    intro o good
    exact ((AggregationOptions.ofRaw_eq_ok_iff raw o).mp good).2.2.2.2.2.2

/-- The last page of all, spelled out with a sign, zeros in front and an ideographic space; its size
is a zero. -/
def lastPage : Json.Members :=
  [("page", .string "\u3000+0018446744073709551615 "), ("pageSize", .number (.double (.zero true)))]

/-- The page behind it, which no count reaches. -/
def pageBeyond : Json.Members := [("page", .string "18446744073709551616")]

/-- The last page is read as it is spelled, and the size is not given; one page more is refused. -/
theorem lastPage_read :
    (∃ o, SearchOptions.ofRaw lastPage = .ok o ∧ o.page.toNat = UInt64.size - 1 ∧
      o.pageSize.toNat = 25) ∧
    ∃ v, pageBeyond.GivesNoCount "page" v ∧
      AggregationOptions.ofRaw pageBeyond = .error (.invalidOption "page" (.notPositive v)) := by
  constructor
  · obtain ⟨-, size, page, -⟩ := page_options_read_as_given lastPage
    have spelled : Numeral.Spells "\u3000+0018446744073709551615 ".toList (UInt64.size - 1) :=
      ⟨['\u3000'], ['+'], "0018446744073709551615".toList, [' '], by decide,
        List.forall_mem_singleton.mpr (by decide), List.forall_mem_singleton.mpr (by decide),
        .inr rfl, by decide, by simp, by decide⟩
    have counted : lastPage.GivesCount "page" (UInt64.size - 1) :=
      ⟨_, rfl, .numeral spelled (Nat.le_refl _), by decide⟩
    have nothing : lastPage.GivesNothing "pageSize" := .inr ⟨_, rfl, .signedZero true⟩
    obtain ⟨o, read⟩ : ∃ o, SearchOptions.ofRaw lastPage = .ok o := ⟨_, rfl⟩
    exact ⟨o, read, (page.read o read _).mpr (.inr counted),
      (size.read o read _).mpr (.inl ⟨nothing, rfl⟩)⟩
  · obtain ⟨-, -, -, -, page⟩ := page_options_read_as_given pageBeyond
    have refused : AggregationOptions.ofRaw pageBeyond = .error
        (.invalidOption "page" (.notPositive (.string "18446744073709551616"))) := by decide
    obtain ⟨-, v, given, same⟩ := (page.refused _ rfl).mp refused
    exact ⟨v, given, same ▸ refused⟩

end DocSearch
