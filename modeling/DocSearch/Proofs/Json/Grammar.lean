import DocSearch.Json.Reader
import DocSearch.Proofs.Result
import DocSearch.Proofs.Text.Utf8

/-!
# The grammar of JSON texts

RFC 8259 over bytes, without a value or a limit in it. Each rule relates the bytes from where a
part starts to those behind it. Whatever the reader takes is derived by the rules; what it refuses
besides, brackets beyond its depth, numbers out of its range and lone surrogates, is not the
grammar's concern.
-/
namespace DocSearch.Json

/-! ## Rules -/

namespace Grammar

/-- Any number of blanks. -/
inductive Blanks : Bytes → Bytes → Prop
  | none {left : Bytes} : Blanks left left
  | more {b : UInt8} {rest left : Bytes} (blank : b ∈ [0x20, 0x09, 0x0A, 0x0D])
      (later : Blanks rest left) : Blanks (b :: rest) left

def IsDigit (b : UInt8) : Prop := 0x30 ≤ b ∧ b ≤ 0x39

def IsHexDigit (b : UInt8) : Prop :=
  IsDigit b ∨ (0x61 ≤ b ∧ b ≤ 0x66) ∨ (0x41 ≤ b ∧ b ≤ 0x46)

/-- Any number of digits. -/
inductive Digits : Bytes → Bytes → Prop
  | none {left : Bytes} : Digits left left
  | more {b : UInt8} {rest left : Bytes} (digit : IsDigit b) (later : Digits rest left) :
      Digits (b :: rest) left

/-- An exponent part: its letter, perhaps a sign, and at least one digit. -/
inductive Exponent : Bytes → Bytes → Prop
  | plain {e b : UInt8} {rest left : Bytes} (letter : e ∈ [0x65, 0x45]) (digit : IsDigit b)
      (later : Digits rest left) : Exponent (e :: b :: rest) left
  | signed {e s b : UInt8} {rest left : Bytes} (letter : e ∈ [0x65, 0x45])
      (sign : s ∈ [0x2B, 0x2D]) (digit : IsDigit b) (later : Digits rest left) :
      Exponent (e :: s :: b :: rest) left

/-- What may stand behind the last digit of an integer part or of a fraction part. -/
def OptionalExponent (bytes left : Bytes) : Prop := bytes = left ∨ Exponent bytes left

/-- A fraction part: a point and at least one digit. -/
inductive Fraction : Bytes → Bytes → Prop
  | mk {b : UInt8} {rest left : Bytes} (digit : IsDigit b) (later : Digits rest left) :
      Fraction (0x2E :: b :: rest) left

def OptionalFraction (bytes left : Bytes) : Prop := bytes = left ∨ Fraction bytes left

/-- An integer part, which is zero or does not start with it. -/
inductive Integer : Bytes → Bytes → Prop
  | zero {left : Bytes} : Integer (0x30 :: left) left
  | digits {b : UInt8} {rest left : Bytes} (digit : IsDigit b) (nonzero : b ≠ 0x30)
      (later : Digits rest left) : Integer (b :: rest) left

/-- A number without its sign. -/
inductive Unsigned : Bytes → Bytes → Prop
  | mk {a b c left : Bytes} (integer : Integer a b) (fraction : OptionalFraction b c)
      (exponent : OptionalExponent c left) : Unsigned a left

/-- The characters of a string and its closing quote. -/
inductive Characters : Bytes → Bytes → Prop
  | close {left : Bytes} : Characters (0x22 :: left) left
  | plain {c : Char} {rest left : Bytes} (visible : 0x20 ≤ c.toNat) (other : c ≠ '"' ∧ c ≠ '\\')
      (later : Characters rest left) : Characters (String.utf8EncodeChar c ++ rest) left
  | escape {b : UInt8} {rest left : Bytes}
      (short : b ∈ [0x22, 0x5C, 0x2F, 0x62, 0x66, 0x6E, 0x72, 0x74])
      (later : Characters rest left) : Characters (0x5C :: b :: rest) left
  | unit {a b c d : UInt8} {rest left : Bytes} (hex : ∀ h ∈ [a, b, c, d], IsHexDigit h)
      (later : Characters rest left) : Characters (0x5C :: 0x75 :: a :: b :: c :: d :: rest) left

mutual

inductive Value : Bytes → Bytes → Prop
  | null {left : Bytes} : Value (0x6E :: 0x75 :: 0x6C :: 0x6C :: left) left
  | true {left : Bytes} : Value (0x74 :: 0x72 :: 0x75 :: 0x65 :: left) left
  | false {left : Bytes} : Value (0x66 :: 0x61 :: 0x6C :: 0x73 :: 0x65 :: left) left
  | unsigned {rest left : Bytes} (number : Unsigned rest left) : Value rest left
  | negative {rest left : Bytes} (number : Unsigned rest left) : Value (0x2D :: rest) left
  | string {rest left : Bytes} (characters : Characters rest left) : Value (0x22 :: rest) left
  | emptyArray {rest left : Bytes} (blanks : Blanks rest (0x5D :: left)) :
      Value (0x5B :: rest) left
  | array {rest left : Bytes} (items : Items rest left) : Value (0x5B :: rest) left
  | object {rest left : Bytes} (object : Object rest left) : Value rest left

/-- The items of an array, one at least, and its closing bracket. -/
inductive Items : Bytes → Bytes → Prop
  | last {a b c left : Bytes} (before : Blanks a b) (value : Value b c)
      (after : Blanks c (0x5D :: left)) : Items a left
  | more {a b c d left : Bytes} (before : Blanks a b) (value : Value b c)
      (after : Blanks c (0x2C :: d)) (later : Items d left) : Items a left

inductive Object : Bytes → Bytes → Prop
  | empty {rest left : Bytes} (blanks : Blanks rest (0x7D :: left)) : Object (0x7B :: rest) left
  | filled {rest left : Bytes} (members : Members rest left) : Object (0x7B :: rest) left

/-- A key, a colon and a value. -/
inductive Member : Bytes → Bytes → Prop
  | mk {a b c d left : Bytes} (key : Characters a b) (before : Blanks b (0x3A :: c))
      (after : Blanks c d) (value : Value d left) : Member (0x22 :: a) left

/-- The members of an object, one at least, and its closing brace. -/
inductive Members : Bytes → Bytes → Prop
  | last {a b c left : Bytes} (before : Blanks a b) (member : Member b c)
      (after : Blanks c (0x7D :: left)) : Members a left
  | more {a b c d left : Bytes} (before : Blanks a b) (member : Member b c)
      (after : Blanks c (0x2C :: d)) (later : Members d left) : Members a left

end

end Grammar

open Grammar

/-- A JSON text whose value is an object, with blanks around it. -/
def IsObjectText (text : Bytes) : Prop :=
  ∃ a b, Blanks text a ∧ Object a b ∧ Blanks b []

/-! ## Blanks and digits -/

theorem Grammar.Blanks.trans {a b c : Bytes} (first : Blanks a b) (second : Blanks b c) :
    Blanks a c := by
  induction first with
  | none => exact second
  | more blank _ ih => exact .more blank (ih second)

theorem Grammar.Digits.trans {a b c : Bytes} (first : Digits a b) (second : Digits b c) :
    Digits a c := by
  induction first with
  | none => exact second
  | more digit _ ih => exact .more digit (ih second)

theorem isBlank_eq_true_iff (b : UInt8) : isBlank b = true ↔ b ∈ [0x20, 0x09, 0x0A, 0x0D] := by
  simp [isBlank, or_assoc]

theorem blanks_skipBlanks (bytes : Bytes) : Blanks bytes (skipBlanks bytes) := by
  induction bytes with
  | nil => exact .none
  | cons b rest ih =>
    rw [skipBlanks, List.dropWhile_cons]
    split
    · next blank => exact .more ((isBlank_eq_true_iff b).mp blank) ih
    · exact .none

namespace NumberReader

theorem isDigit_of_isSome {b : UInt8} (digit : (digit? b).isSome = true) : IsDigit b := by
  rw [digit?] at digit
  split at digit
  · next range => exact range
  · cases digit

theorem isDigit_of_digit? {b : UInt8} {d : Nat} (digit : digit? b = some d) : IsDigit b :=
  isDigit_of_isSome (Option.isSome_of_eq_some digit)

theorem digits_appendDigits (limit n : Nat) (bytes : Bytes) :
    Digits bytes (appendDigits limit n bytes).2.2 := by
  fun_induction appendDigits limit n bytes with
  | case1 => exact .none
  | case2 => exact .none
  | case3 n b rest d digit fits total count left taken ih =>
    rw [taken] at ih
    exact .more (isDigit_of_digit? digit) ih
  | case4 => exact .none

theorem digits_skipDigits (bytes : Bytes) : Digits bytes (skipDigits bytes).2 := by
  fun_induction skipDigits bytes with
  | case1 => exact .none
  | case2 b rest digit count left taken ih =>
    rw [taken] at ih
    exact .more (isDigit_of_isSome digit) ih
  | case3 => exact .none

theorem startsWithDigit_skipDigits (bytes : Bytes) :
    startsWithDigit (skipDigits bytes).2 = false := by
  fun_induction skipDigits bytes with
  | case1 => rfl
  | case2 b rest digit count left taken ih => rwa [taken] at ih
  | case3 b rest other => exact Bool.eq_false_iff.mpr other

/-- Digits that are read to their end take the first one. -/
theorem digits_tail {b : UInt8} {rest left : Bytes} (digit : (digit? b).isSome = true)
    (digits : Digits (b :: rest) left) (ended : startsWithDigit left = false) :
    Digits rest left := by
  cases digits with
  | none => exact absurd (digit.symm.trans ended) (by decide)
  | more _ later => exact later

/-! ## Numbers -/

theorem left_of_double {negative : Bool} {significand : Nat} {exponent : Int} {bytes left : Bytes}
    {n : Number} (read : double negative significand exponent bytes = .ok (n, left)) :
    bytes = left := by
  unfold double at read
  split at read <;> cases read
  rfl

theorem exponent_of_exponentDigits {negative down : Bool} {significand : Nat} {start : Int}
    {bytes left : Bytes} {n : Number}
    (read : exponentDigits negative significand start down bytes = .ok (n, left)) :
    ∃ b rest, bytes = b :: rest ∧ IsDigit b ∧ Digits rest left := by
  cases bytes with
  | nil => cases read
  | cons b rest =>
    rw [exponentDigits] at read
    split at read
    · cases read
    · next d digit =>
      have digits := digits_appendDigits greatestExponent d rest
      refine ⟨b, rest, rfl, isDigit_of_digit? digit, ?_⟩
      generalize appendDigits greatestExponent d rest = taken at read digits
      obtain ⟨e, count, onward⟩ := taken
      simp only at read
      split at read
      · split at read
        · cases read
        · cases read
          exact digits.trans (digits_skipDigits onward)
      · exact left_of_double read ▸ digits

theorem exponent_of_exponentPart {negative : Bool} {significand : Nat} {start : Int} {e : UInt8}
    (letter : e ∈ [0x65, 0x45]) {bytes left : Bytes} {n : Number}
    (read : exponentPart negative significand start bytes = .ok (n, left)) :
    Exponent (e :: bytes) left := by
  rw [exponentPart.eq_def] at read
  split at read
  · obtain ⟨b, rest, rfl, digit, later⟩ := exponent_of_exponentDigits read
    exact .signed letter (by decide) digit later
  · obtain ⟨b, rest, rfl, digit, later⟩ := exponent_of_exponentDigits read
    exact .signed letter (by decide) digit later
  · obtain ⟨b, rest, rfl, digit, later⟩ := exponent_of_exponentDigits read
    exact .plain letter digit later

theorem optionalExponent_of_afterDigits {negative : Bool} {significand : Nat} {exponent : Int}
    {bytes left : Bytes} {n : Number}
    (read : afterDigits negative significand exponent bytes = .ok (n, left)) :
    OptionalExponent bytes left := by
  rw [afterDigits.eq_def] at read
  split at read
  · exact .inr (exponent_of_exponentPart (by decide) read)
  · exact .inr (exponent_of_exponentPart (by decide) read)
  · exact .inl (left_of_double read)

/-- What follows an integer part: perhaps a fraction, and perhaps an exponent. -/
def AfterInteger (bytes left : Bytes) : Prop :=
  ∃ b, OptionalFraction bytes b ∧ OptionalExponent b left

theorem afterInteger_of_fraction {negative : Bool} {significand : Nat} {exponent : Int}
    {bytes left : Bytes} {n : Number}
    (read : fraction negative significand exponent bytes = .ok (n, left)) :
    AfterInteger (0x2E :: bytes) left := by
  cases bytes with
  | nil => cases read
  | cons b rest =>
    rw [fraction] at read
    split at read
    · cases read
    · next some =>
      have digit := Option.isSome_iff_ne_none.mpr (mt Option.isNone_iff_eq_none.mpr some)
      have digits := digits_appendDigits greatestSignificand significand (b :: rest)
      generalize appendDigits greatestSignificand significand (b :: rest) = taken at read digits
      obtain ⟨total, count, onward⟩ := taken
      have whole := digits_tail digit (digits.trans (digits_skipDigits onward))
        (startsWithDigit_skipDigits onward)
      exact ⟨_, .inr (.mk (isDigit_of_isSome digit) whole), optionalExponent_of_afterDigits read⟩

theorem afterInteger_of_longInteger {negative : Bool} {significand : Nat} {bytes left : Bytes}
    {n : Number} (read : longInteger negative significand bytes = .ok (n, left)) :
    ∃ b, Digits bytes b ∧ AfterInteger b left := by
  rw [longInteger] at read
  refine ⟨_, digits_skipDigits bytes, ?_⟩
  generalize skipDigits bytes = skipped at read
  obtain ⟨count, onward⟩ := skipped
  simp only at read
  split at read
  · exact afterInteger_of_fraction read
  · exact ⟨_, .inl rfl, optionalExponent_of_afterDigits read⟩

theorem left_of_integer {negative : Bool} {k : Nat} {bytes left : Bytes} {n : Number}
    (read : integer negative k bytes = .ok (n, left)) : bytes = left := by
  unfold integer at read
  split at read
  · split at read
    · cases read; rfl
    · split at read
      · cases read; rfl
      · exact left_of_double read
  · split at read
    · cases read; rfl
    · exact left_of_double read

theorem afterInteger_of_afterInteger {negative : Bool} {k : Nat} {bytes left : Bytes} {n : Number}
    (read : afterInteger negative k bytes = .ok (n, left)) : AfterInteger bytes left := by
  rw [afterInteger.eq_def] at read
  split at read
  · exact afterInteger_of_fraction read
  · exact ⟨_, .inl rfl, .inr (exponent_of_exponentPart (by decide) read)⟩
  · exact ⟨_, .inl rfl, .inr (exponent_of_exponentPart (by decide) read)⟩
  · exact ⟨_, .inl rfl, .inl (left_of_integer read)⟩

theorem eq_of_digit?_zero {b : UInt8} (zero : digit? b = some 0) : b = 0x30 := by
  have range : 0x30 ≤ b ∧ b ≤ 0x39 := isDigit_of_digit? zero
  rw [digit?, if_pos range, Option.some.injEq] at zero
  rw [UInt8.le_iff_toNat_le, UInt8.le_iff_toNat_le] at range
  rw [← UInt8.toNat_inj]
  exact Nat.le_antisymm (Nat.le_of_sub_eq_zero zero) range.1

/-- What is read as a number without its sign is one. -/
theorem unsigned_of_unsigned {negative : Bool} {bytes left : Bytes} {n : Number}
    (read : unsigned negative bytes = .ok (n, left)) : Unsigned bytes left := by
  cases bytes with
  | nil => cases read
  | cons b rest =>
    rw [unsigned.eq_def] at read
    simp only at read
    split at read
    · cases read
    · next zero =>
      split at read
      · cases read
      · obtain ⟨_, fraction, exponent⟩ := afterInteger_of_afterInteger read
        rw [eq_of_digit?_zero zero]
        exact .mk .zero fraction exponent
    · next d nonzero digit =>
      have first : b ≠ 0x30 := by
        rintro rfl
        exact nonzero (Option.some.inj digit).symm
      have digits := digits_appendDigits greatestSignificand d rest
      generalize appendDigits greatestSignificand d rest = taken at read digits
      obtain ⟨k, count, onward⟩ := taken
      simp only at read
      split at read
      · obtain ⟨_, more, _, fraction, exponent⟩ := afterInteger_of_longInteger read
        exact .mk (.digits (isDigit_of_digit? digit) first (digits.trans more)) fraction exponent
      · obtain ⟨_, fraction, exponent⟩ := afterInteger_of_afterInteger read
        exact .mk (.digits (isDigit_of_digit? digit) first digits) fraction exponent

end NumberReader

/-! ## Strings -/

namespace StringReader

theorem isHexDigit_of_hexDigit? {b : UInt8} {d : Nat} (digit : hexDigit? b = some d) :
    IsHexDigit b := by
  unfold hexDigit? at digit
  split at digit
  · next range => exact .inl range
  · split at digit
    · next range => exact .inr (.inl range)
    · split at digit
      · next range => exact .inr (.inr range)
      · cases digit

theorem characters_of_hexUnit {bytes left : Bytes} {n : Nat}
    (read : hexUnit bytes = .ok (n, left)) {rest : Bytes} (later : Characters left rest) :
    Characters (0x5C :: 0x75 :: bytes) rest := by
  rw [hexUnit.eq_def] at read
  split at read
  · split at read
    · next a b c d onward _ _ _ _ ha hb hc hd =>
      cases read
      refine .unit ?_ later
      simp only [List.forall_mem_cons]
      exact ⟨isHexDigit_of_hexDigit? ha, isHexDigit_of_hexDigit? hb, isHexDigit_of_hexDigit? hc,
        isHexDigit_of_hexDigit? hd, List.forall_mem_nil _⟩
    · cases read
  · cases read

theorem eq_cons_of_pairByte {expected : UInt8} {bytes left : Bytes}
    (read : pairByte expected bytes = .ok ((), left)) : bytes = expected :: left := by
  unfold pairByte at read
  split at read
  · cases read
  · split at read
    · next same =>
      cases read
      rw [same]
    · cases read

theorem characters_of_unicodeEscape {bytes left : Bytes} {c : Char}
    (read : unicodeEscape bytes = .ok (c, left)) {rest : Bytes} (later : Characters left rest) :
    Characters (0x5C :: 0x75 :: bytes) rest := by
  obtain ⟨⟨first, onward⟩, unit, read⟩ := (bind_eq_ok_iff _ _ _).mp read
  simp only at read
  split at read
  · cases read
  · split at read
    · obtain ⟨⟨_, second⟩, backslash, read⟩ := (bind_eq_ok_iff _ _ _).mp read
      obtain ⟨⟨_, third⟩, letter, read⟩ := (bind_eq_ok_iff _ _ _).mp read
      obtain ⟨⟨partner, last⟩, pair, read⟩ := (bind_eq_ok_iff _ _ _).mp read
      simp only at read
      split at read
      · obtain ⟨-, rfl⟩ := Prod.mk.inj (Except.ok.inj read)
        have inner := characters_of_hexUnit pair later
        rw [← eq_cons_of_pairByte letter, ← eq_cons_of_pairByte backslash] at inner
        exact characters_of_hexUnit unit inner
      · cases read
    · cases read
      exact characters_of_hexUnit unit later

theorem characters_of_escape {bytes left : Bytes} {c : Char}
    (read : escape bytes = .ok (c, left)) {rest : Bytes} (later : Characters left rest) :
    Characters (0x5C :: bytes) rest := by
  cases bytes with
  | nil => cases read
  | cons b onward =>
    by_cases unit : b = 0x75
    · subst unit
      have unicode : unicodeEscape onward = .ok (c, left) := read
      exact characters_of_unicodeEscape unicode later
    by_cases short : b ∈ [0x22, 0x5C, 0x2F, 0x62, 0x66, 0x6E, 0x72, 0x74]
    · have taken : onward = left := by
        simp only [List.mem_cons, List.not_mem_nil, or_false] at short
        obtain rfl | rfl | rfl | rfl | rfl | rfl | rfl | rfl := short <;>
          exact (Prod.mk.inj (Except.ok.inj read)).2
      exact .escape short (taken ▸ later)
    · simp only [List.mem_cons, List.not_mem_nil, or_false, not_or] at short
      simp [escape, short, unit, fail] at read

/-- What the reader of strings goes through: bytes that it takes as they are, and escapes. The
bytes that are to be decoded are collected. -/
inductive Scanned : Bytes → Bytes → Bytes → Prop
  | close {left : Bytes} : Scanned (0x22 :: left) [] left
  | raw {b : UInt8} {rest units left : Bytes} (visible : 0x20 ≤ b) (other : b ≠ 0x22 ∧ b ≠ 0x5C)
      (later : Scanned rest units left) : Scanned (b :: rest) (b :: units) left
  | escaped {source rest units left : Bytes} {c : Char} (read : escape source = .ok (c, rest))
      (later : Scanned rest units left) :
      Scanned (0x5C :: source) (String.utf8EncodeChar c ++ units) left

theorem scanned_of_body {fuel : Nat} {bytes left : Bytes} {units : List (UInt8 × Bytes)}
    (read : body fuel bytes = .ok (units, left)) : Scanned bytes (units.map Prod.fst) left := by
  induction fuel generalizing bytes units with
  | zero => cases read
  | succ fuel ih =>
    cases bytes with
    | nil => cases read
    | cons b rest =>
      rw [body] at read
      split at read
      · next quote =>
        cases read
        rw [quote]
        exact .close
      · next unquoted =>
        split at read
        · next backslash =>
          obtain ⟨⟨c, onward⟩, escaped, read⟩ := (bind_eq_ok_iff _ _ _).mp read
          obtain ⟨⟨more, left'⟩, later, read⟩ := (bind_eq_ok_iff _ _ _).mp read
          cases read
          have units : (((String.utf8EncodeChar c).map (·, onward)) ++ more).map Prod.fst =
              String.utf8EncodeChar c ++ more.map Prod.fst := by
            rw [List.map_append, List.map_map]
            exact congrArg (· ++ _) (List.map_id _)
          rw [backslash, units]
          exact .escaped escaped (ih later)
        · next unescaped =>
          split at read
          · cases read
          · next visible =>
            obtain ⟨⟨more, left'⟩, later, read⟩ := (bind_eq_ok_iff _ _ _).mp read
            cases read
            exact .raw (UInt8.not_lt.mp visible) ⟨unquoted, unescaped⟩ (ih later)

/-- Bytes that no character starts with are taken as they are. -/
theorem Scanned.of_tails {tails : Bytes} (range : ∀ t ∈ tails, 0x80 ≤ t ∧ t < 0xC0)
    {bytes more left : Bytes} (scanned : Scanned bytes (tails ++ more) left) :
    ∃ rest, bytes = tails ++ rest ∧ Scanned rest more left := by
  induction tails generalizing bytes with
  | nil => exact ⟨bytes, rfl, scanned⟩
  | cons t tails ih =>
    obtain ⟨here, later⟩ := List.forall_mem_cons.mp range
    rw [List.cons_append] at scanned
    generalize units : t :: (tails ++ more) = u at scanned
    cases scanned with
    | close => cases units
    | raw visible other onward =>
      cases units
      obtain ⟨rest, rfl, scanned⟩ := ih later onward
      exact ⟨rest, rfl, scanned⟩
    | @escaped source onward units' _ c read _ =>
      -- an escape puts in a whole character
      obtain ⟨b, more', bytes, lead, -⟩ := Utf8.utf8EncodeChar_eq_cons c
      rw [bytes] at units
      obtain ⟨rfl, -⟩ := List.cons.inj units
      obtain ⟨-, below⟩ | ⟨-, above⟩ := lead
      · exact absurd here.1 (UInt8.not_le.mpr below)
      · exact absurd here.2 (UInt8.not_lt.mpr above)

/-- If the collected bytes are those of a text, the bytes that were gone through are characters. -/
theorem Scanned.characters {text : List Char} {bytes units left : Bytes}
    (scanned : Scanned bytes units left) (decoded : units = Utf8.encodeChars text) :
    Characters bytes left := by
  induction text generalizing bytes units with
  | nil =>
    cases scanned with
    | close => exact .close
    | raw => cases decoded
    | @escaped _ _ _ _ c =>
      obtain ⟨b, tails, encoded, -, -⟩ := Utf8.utf8EncodeChar_eq_cons c
      rw [encoded] at decoded
      cases decoded
  | cons c text ih =>
    rw [Utf8.encodeChars_cons] at decoded
    obtain ⟨b, tails, encoded, -, range⟩ := Utf8.utf8EncodeChar_eq_cons c
    cases scanned with
    | close =>
      rw [encoded] at decoded
      cases decoded
    | @raw a _ _ _ visible other later =>
      rw [encoded] at decoded
      obtain ⟨rfl, rfl⟩ := List.cons.inj decoded
      -- the rest of the character was taken as it is, so the reader is at the next one
      obtain ⟨rest, rfl, onward⟩ := later.of_tails range
      rw [← List.cons_append, ← encoded]
      have first (ascii : c.toNat < 0x80) : a = UInt8.ofNat c.toNat := by
        rw [Utf8.utf8EncodeChar_of_ascii c ascii] at encoded
        exact (List.cons.inj encoded).1.symm
      refine .plain ?_ ⟨?_, ?_⟩ (ih onward rfl)
      · rw [← Nat.not_lt]
        intro control
        rw [first (Nat.lt_trans control (by decide)), UInt8.le_iff_toNat_le,
          UInt8.toNat_ofNat_of_lt' (Nat.lt_trans control (by decide))] at visible
        exact absurd visible (Nat.not_le.mpr control)
      · rintro rfl
        exact other.1 (first (by decide))
      · rintro rfl
        exact other.2 (first (by decide))
    | escaped read later =>
      obtain ⟨rfl, rfl⟩ := Utf8.utf8EncodeChar_append_inj decoded
      exact characters_of_escape read (ih later rfl)

/-- What is read as a string after its opening quote is one. -/
theorem characters_of_string {bytes left : Bytes} {s : String}
    (read : string bytes = .ok (s, left)) : Characters bytes left := by
  obtain ⟨⟨units, onward⟩, scanned, read⟩ := (bind_eq_ok_iff _ _ _).mp read
  obtain ⟨text, decoded, read⟩ := (bind_eq_ok_iff _ _ _).mp read
  cases read
  rw [decodeUnits] at decoded
  split at decoded
  · next chars wellFormed =>
    exact (scanned_of_body scanned).characters ((Utf8.decode_eq_ok_iff _ chars).mp wellFormed)
  · cases decoded

end StringReader

/-! ## Values -/

/-- The reader takes blanks and then a value; an object if that is what it gives. -/
def Spans (item : Reader Json) : Prop :=
  ∀ bytes v left, item bytes = .ok (v, left) →
    ∃ start, Blanks bytes start ∧ Value start left ∧
      ∀ members, v = .object members → Object start left

theorem eq_append_of_wordRest {word bytes left : Bytes} (read : wordRest word bytes = .ok left) :
    bytes = word ++ left := by
  induction word generalizing bytes with
  | nil => exact Except.ok.inj read
  | cons expected word ih =>
    cases bytes with
    | nil => cases read
    | cons b rest =>
      rw [wordRest] at read
      split at read
      · next same => rw [same, ih read, List.cons_append]
      · cases read

/-- A literal is its word, and nothing of what follows. -/
theorem literal_of_wordRest {word bytes left : Bytes} {literal v : Json}
    (read : (return (literal, ← wordRest word bytes) : Except Fault (Json × Bytes)) =
      .ok (v, left)) : v = literal ∧ bytes = word ++ left := by
  obtain ⟨onward, taken, ended⟩ := (bind_eq_ok_iff _ _ _).mp read
  cases ended
  exact ⟨rfl, eq_append_of_wordRest taken⟩

section
variable {item : Reader Json} (spans : Spans item)
include spans

theorem items_of_moreItems {fuel : Nat} {bytes left : Bytes} {vs : List Json}
    (read : moreItems item fuel bytes = .ok (vs, left)) {a b : Bytes} (before : Blanks a b)
    (value : Value b bytes) : Items a left := by
  induction fuel generalizing bytes vs a b with
  | zero => cases read
  | succ fuel ih =>
    rw [moreItems] at read
    have blanks := blanks_skipBlanks bytes
    split at read
    · cases read
    · next c rest first =>
      rw [first] at blanks
      split at read
      · next closed =>
        cases read
        exact .last before value (closed ▸ blanks)
      · split at read
        · next comma =>
          subst comma
          have more := blanks_skipBlanks rest
          split at read
          · cases read
          · next d rest' next =>
            rw [next] at more
            split at read
            · cases read
            · obtain ⟨⟨v, onward⟩, here, read⟩ := (bind_eq_ok_iff _ _ _).mp read
              obtain ⟨⟨vs, left'⟩, later, read⟩ := (bind_eq_ok_iff _ _ _).mp read
              cases read
              obtain ⟨start, lead, inside, -⟩ := spans _ v onward here
              exact .more before value blanks (ih later (more.trans lead) inside)
        · cases read

theorem value_of_items {bytes left : Bytes} {vs : List Json}
    (read : items item bytes = .ok (vs, left)) : Value (0x5B :: bytes) left := by
  rw [items] at read
  have blanks := blanks_skipBlanks bytes
  split at read
  · cases read
  · next b rest first =>
    rw [first] at blanks
    split at read
    · next closed =>
      cases read
      exact .emptyArray (closed ▸ blanks)
    · obtain ⟨⟨v, onward⟩, here, read⟩ := (bind_eq_ok_iff _ _ _).mp read
      obtain ⟨⟨vs, left'⟩, later, read⟩ := (bind_eq_ok_iff _ _ _).mp read
      cases read
      obtain ⟨start, lead, inside, -⟩ := spans _ v onward here
      exact .array (items_of_moreItems spans later (blanks.trans lead) inside)

theorem member_of_member {closed : ReadError.Cause} {bytes left : Bytes} {m : String × Json}
    (read : member item closed bytes = .ok (m, left)) : Member bytes left := by
  cases bytes with
  | nil => cases read
  | cons b rest =>
    rw [member] at read
    split at read
    · next quote =>
      obtain ⟨⟨key, onward⟩, characters, read⟩ := (bind_eq_ok_iff _ _ _).mp read
      have blanks := blanks_skipBlanks onward
      simp only at read
      split at read
      · cases read
      · next c rest' first =>
        rw [first] at blanks
        split at read
        · next colon =>
          obtain ⟨⟨v, left'⟩, inside, read⟩ := (bind_eq_ok_iff _ _ _).mp read
          cases read
          obtain ⟨start, lead, value, -⟩ := spans _ v _ inside
          rw [quote]
          exact .mk (StringReader.characters_of_string characters) (colon ▸ blanks) lead value
        · cases read
    · split at read <;> cases read

theorem members_of_moreMembers {fuel : Nat} {seen found : Json.Members} {bytes left : Bytes}
    (read : moreMembers item fuel seen bytes = .ok (found, left)) {a b : Bytes}
    (before : Blanks a b) (member : Member b bytes) : Grammar.Members a left := by
  induction fuel generalizing seen bytes a b with
  | zero => cases read
  | succ fuel ih =>
    rw [moreMembers] at read
    have blanks := blanks_skipBlanks bytes
    split at read
    · cases read
    · next c rest first =>
      rw [first] at blanks
      split at read
      · next closed =>
        cases read
        exact .last before member (closed ▸ blanks)
      · split at read
        · next comma =>
          subst comma
          obtain ⟨⟨⟨key, v⟩, onward⟩, here, later⟩ := (bind_eq_ok_iff _ _ _).mp read
          exact .more before member blanks
            (ih later (blanks_skipBlanks rest) (member_of_member spans here))
        · cases read

theorem object_of_members {found : Json.Members} {bytes left : Bytes}
    (read : members item bytes = .ok (found, left)) : Object (0x7B :: bytes) left := by
  rw [members] at read
  have blanks := blanks_skipBlanks bytes
  split at read
  · cases read
  · next b rest first =>
    rw [first] at blanks
    split at read
    · next closed =>
      cases read
      exact .empty (closed ▸ blanks)
    · obtain ⟨⟨m, onward⟩, here, later⟩ := (bind_eq_ok_iff _ _ _).mp read
      exact .filled (members_of_moreMembers spans later blanks (member_of_member spans here))

end

theorem spans_valueWith {inner : Option (Reader Json)} (spans : ∀ item ∈ inner, Spans item) :
    Spans (valueWith inner) := by
  intro bytes v left read
  refine ⟨skipBlanks bytes, blanks_skipBlanks bytes, ?_⟩
  rw [valueWith] at read
  cases first : skipBlanks bytes with
  | nil => simp [first, fail] at read
  | cons b rest =>
    simp only [first] at read
    split at read
    · next letter =>
      obtain ⟨rfl, rfl⟩ := literal_of_wordRest read
      exact ⟨letter ▸ .null, nofun⟩
    split at read
    · next letter =>
      obtain ⟨rfl, rfl⟩ := literal_of_wordRest read
      exact ⟨letter ▸ .true, nofun⟩
    split at read
    · next letter =>
      obtain ⟨rfl, rfl⟩ := literal_of_wordRest read
      exact ⟨letter ▸ .false, nofun⟩
    split at read
    · next sign =>
      obtain ⟨⟨n, onward⟩, number, read⟩ := (bind_eq_ok_iff _ _ _).mp read
      cases read
      rw [sign]
      exact ⟨.negative (NumberReader.unsigned_of_unsigned number), nofun⟩
    split at read
    · obtain ⟨⟨n, onward⟩, number, read⟩ := (bind_eq_ok_iff _ _ _).mp read
      cases read
      exact ⟨.unsigned (NumberReader.unsigned_of_unsigned number), nofun⟩
    split at read
    · next quote =>
      obtain ⟨⟨s, onward⟩, characters, read⟩ := (bind_eq_ok_iff _ _ _).mp read
      cases read
      rw [quote]
      exact ⟨.string (StringReader.characters_of_string characters), nofun⟩
    split at read
    · next bracket =>
      cases inner with
      | none => cases read
      | some item =>
        obtain ⟨⟨vs, onward⟩, inside, read⟩ := (bind_eq_ok_iff _ _ _).mp read
        cases read
        rw [bracket]
        exact ⟨value_of_items (spans item rfl) inside, nofun⟩
    split at read
    · next brace =>
      cases inner with
      | none => cases read
      | some item =>
        obtain ⟨⟨pairs, onward⟩, inside, read⟩ := (bind_eq_ok_iff _ _ _).mp read
        cases read
        rw [brace]
        have object := object_of_members (spans item rfl) inside
        exact ⟨.object object, fun _ _ => object⟩
    · cases read

theorem spans_value (depth : Nat) : Spans (value depth) := by
  induction depth with
  | zero => exact spans_valueWith nofun
  | succ depth ih => exact spans_valueWith fun item inner => Option.some.inj inner ▸ ih

/-- A text that reads as an object is the text of one. -/
theorem isObjectText_of_readText {text : Bytes} {members : Json.Members}
    (read : readText text = .ok (.object members)) : IsObjectText text := by
  obtain ⟨⟨v, left⟩, inside, read⟩ := (bind_eq_ok_iff _ _ _).mp read
  have blanks := blanks_skipBlanks left
  simp only at read
  split at read
  · next ended =>
    obtain rfl := Except.ok.inj read
    obtain ⟨start, before, -, object⟩ := spans_value deepestNesting text _ left inside
    rw [ended] at blanks
    exact ⟨start, left, before, object members rfl, blanks⟩
  · cases read

end DocSearch.Json
