import DocSearch.Text.Blank
import DocSearch.Text.Numeral
import Mathlib.Data.List.TakeWhile

/-!
# Numerals spelled out

The texts that are read as a number once the white space around them is gone: an optional plus sign
and at least one digit, between blanks.
-/
namespace DocSearch

namespace Blank

variable {front core back : List Char}

/-- Every text is what is left of it, between blanks. -/
theorem exists_trim (text : List Char) :
    ∃ front back, text = front ++ trim text ++ back ∧ (∀ c ∈ front, isBlank c = true) ∧
      ∀ c ∈ back, isBlank c = true := by
  let rest := text.dropWhile isBlank
  have ends : rest = trim text ++ (rest.reverse.takeWhile isBlank).reverse := by
    rw [trim, ← List.reverse_append, List.takeWhile_append_dropWhile, List.reverse_reverse]
  refine ⟨text.takeWhile isBlank, (rest.reverse.takeWhile isBlank).reverse, ?_, ?_, ?_⟩
  · rw [List.append_assoc, ← ends, List.takeWhile_append_dropWhile]
  · exact fun c member => List.mem_takeWhile_imp member
  · exact fun c member => List.mem_takeWhile_imp (List.mem_reverse.mp member)

/-- Before a text without a blank at its start, blanks are all that is dropped. -/
theorem dropWhile_append (rest : List Char) (blank : ∀ c ∈ front, isBlank c = true)
    (nonempty : core ≠ []) (dense : ∀ c ∈ core, isBlank c = false) :
    (front ++ (core ++ rest)).dropWhile isBlank = core ++ rest := by
  rw [List.dropWhile_append_of_pos blank]
  cases core with
  | nil => exact absurd rfl nonempty
  | cons c core =>
    exact List.dropWhile_cons_of_neg (by simp [dense c List.mem_cons_self])

theorem trim_append (front_blank : ∀ c ∈ front, isBlank c = true)
    (back_blank : ∀ c ∈ back, isBlank c = true) (nonempty : core ≠ [])
    (dense : ∀ c ∈ core, isBlank c = false) : trim (front ++ core ++ back) = core := by
  -- the end of a text is dropped as the start of its reverse
  have mirrored : (back.reverse ++ (core.reverse ++ [])).dropWhile isBlank = core.reverse ++ [] :=
    dropWhile_append [] (by simpa using back_blank) (by simpa using nonempty)
      (by simpa using dense)
  rw [List.append_nil] at mirrored
  rw [trim, List.append_assoc, dropWhile_append back front_blank nonempty dense,
    List.reverse_append, mirrored, List.reverse_reverse]

end Blank

namespace Numeral

/-- The number that digits stand for, behind one that stands before them. -/
def valueFrom (n : Nat) (digits : List Char) : Nat :=
  digits.foldl (fun n c => 10 * n + (c.toNat - '0'.toNat)) n

/-- A text that spells a number: an optional plus sign and at least one digit, between blanks. -/
def Spells (text : List Char) (n : Nat) : Prop :=
  ∃ front sign digits back, text = front ++ (sign ++ digits) ++ back ∧
    (∀ c ∈ front, Blank.isBlank c = true) ∧ (∀ c ∈ back, Blank.isBlank c = true) ∧
    (sign = [] ∨ sign = ['+']) ∧ digits ≠ [] ∧ (∀ c ∈ digits, '0' ≤ c ∧ c ≤ '9') ∧
    n = valueFrom 0 digits

theorem isDigit_ascii {c : Char} (digit : c.isDigit = true) : c.toNat < 0x80 := by
  have bounded : c.val ≤ '9'.val := of_decide_eq_true (Bool.and_eq_true_iff.mp digit).2
  exact Nat.lt_of_le_of_lt (UInt32.le_iff_toNat_le.mp bounded) (by decide)

/-- More digits make a number no smaller. -/
theorem le_ofDigitChars (digits : List Char) (n : Nat) :
    n ≤ Nat.ofDigitChars 10 digits n := by
  induction digits generalizing n with
  | nil => exact Nat.le_refl n
  | cons c digits ih =>
    rw [Nat.ofDigitChars_cons]
    have further := ih (10 * n + (c.toNat - '0'.toNat))
    omega

theorem not_isBlank_digit (c : Char) (digit : '0' ≤ c ∧ c ≤ '9') : Blank.isBlank c = false := by
  have bounds : 48 ≤ c.toNat ∧ c.toNat ≤ 57 := by
    rw [Char.le_def, Char.le_def, UInt32.le_iff_toNat_le, UInt32.le_iff_toNat_le] at digit
    exact digit
  have apart : ∀ range ∈ Blank.ranges, range.2 < 48 ∨ 57 < range.1 := by decide
  rw [Blank.isBlank, CharRanges.contains, List.any_eq_false]
  intro range member
  have outside := apart range member
  rw [Bool.and_eq_true, decide_eq_true_eq, decide_eq_true_eq]
  omega

theorem digitsFrom?_eq_some_iff (n m : Nat) (text : List Char) :
    digitsFrom? n text = some m ↔ (∀ c ∈ text, '0' ≤ c ∧ c ≤ '9') ∧ m = valueFrom n text := by
  induction text generalizing n with
  | nil => simp [digitsFrom?, valueFrom, eq_comm]
  | cons c rest ih =>
    rw [digitsFrom?, digit?, List.forall_mem_cons]
    by_cases digit : '0' ≤ c ∧ c ≤ '9'
    · rw [if_pos digit]
      simp [ih, digit, valueFrom]
    · rw [if_neg digit]
      simp [digit]

theorem digits?_eq_some_iff (n : Nat) (text : List Char) :
    digits? text = some n ↔
      text ≠ [] ∧ (∀ c ∈ text, '0' ≤ c ∧ c ≤ '9') ∧ n = valueFrom 0 text := by
  cases text with
  | nil => simp [digits?]
  | cons c rest => simp [digits?, digitsFrom?_eq_some_iff]

theorem value?_eq_some_iff (n : Nat) (text : List Char) :
    value? text = some n ↔ ∃ sign digits, text = sign ++ digits ∧ (sign = [] ∨ sign = ['+']) ∧
      digits ≠ [] ∧ (∀ c ∈ digits, '0' ≤ c ∧ c ≤ '9') ∧ n = valueFrom 0 digits := by
  -- digits never start with a plus sign, so the sign can be told from them
  have plus : ¬('0' ≤ '+' ∧ '+' ≤ '9') := by decide
  constructor
  · intro read
    rw [value?.eq_def] at read
    split at read
    · exact ⟨['+'], _, rfl, .inr rfl, (digits?_eq_some_iff _ _).mp read⟩
    · exact ⟨[], _, rfl, .inl rfl, (digits?_eq_some_iff _ _).mp read⟩
  · rintro ⟨sign, digits, rfl, rfl | rfl, nonempty, all, rfl⟩
    · have read := (digits?_eq_some_iff _ digits).mpr ⟨nonempty, all, rfl⟩
      rw [List.nil_append, value?.eq_def]
      split
      · exact absurd (all '+' List.mem_cons_self) plus
      · exact read
    · exact (digits?_eq_some_iff _ digits).mpr ⟨nonempty, all, rfl⟩

/-- The texts that are read as a number, white space aside. -/
theorem value?_trim_eq_some_iff (n : Nat) (text : List Char) :
    value? (Blank.trim text) = some n ↔ Spells text n := by
  rw [value?_eq_some_iff]
  constructor
  · rintro ⟨sign, digits, trimmed, signed, nonempty, all, rfl⟩
    obtain ⟨front, back, whole, front_blank, back_blank⟩ := Blank.exists_trim text
    rw [trimmed] at whole
    exact ⟨front, sign, digits, back, whole, front_blank, back_blank, signed, nonempty, all, rfl⟩
  · rintro ⟨front, sign, digits, back, rfl, front_blank, back_blank, signed, nonempty, all, rfl⟩
    have dense : ∀ c ∈ sign ++ digits, Blank.isBlank c = false := by
      intro c member
      obtain member | member := List.mem_append.mp member
      · obtain rfl | rfl := signed
        · cases member
        · obtain rfl := List.mem_singleton.mp member
          decide
      · exact not_isBlank_digit c (all c member)
    have trimmed := Blank.trim_append front_blank back_blank (by simp [nonempty]) dense
    exact ⟨sign, digits, trimmed, signed, nonempty, all, rfl⟩

theorem atMost?_trim_eq_some_iff (limit n : Nat) (text : List Char) :
    atMost? limit (Blank.trim text) = some n ↔ Spells text n ∧ n ≤ limit := by
  simp [atMost?, Option.filter_eq_some_iff, value?_trim_eq_some_iff]

end Numeral
end DocSearch
