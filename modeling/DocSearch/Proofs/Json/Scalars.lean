import DocSearch.Json.Reader
import DocSearch.Json.Text
import DocSearch.Proofs.Text.Numeral
import DocSearch.Proofs.Text.Utf8

/-!
# Integers and strings read back

The decimal digits of an integer are read as that integer, up to anything that would not go on with
a number. A quoted string is read as that string: what is escaped is put back, and every other
character is taken byte for byte.
-/
namespace DocSearch.Json

open Utf8

/-! ## Numbers -/

theorem encodeChars_cons_of_ascii {c : Char} (ascii : c.toNat < 0x80) (text : List Char)
    (rest : Bytes) :
    encodeChars (c :: text) ++ rest = UInt8.ofNat c.toNat :: (encodeChars text ++ rest) := by
  rw [encodeChars_cons, utf8EncodeChar_of_ascii c ascii, List.append_assoc, List.singleton_append]

namespace NumberReader

/-- Nothing that would go on with a number. -/
def EndsNumber (left : Bytes) : Prop :=
  ∀ b ∈ left.head?, digit? b = none ∧ b ≠ 0x2E ∧ b ≠ 0x65 ∧ b ≠ 0x45

theorem EndsNumber.startsWithDigit {left : Bytes} (ends : EndsNumber left) :
    startsWithDigit left = false := by
  cases left with
  | nil => rfl
  | cons b left => rw [NumberReader.startsWithDigit, (ends b rfl).1, Option.isSome_none]

theorem afterInteger_of_endsNumber (negative : Bool) (n : Nat) {left : Bytes}
    (ends : EndsNumber left) : afterInteger negative n left = integer negative n left := by
  rw [afterInteger.eq_def]
  split
  · exact absurd rfl (ends _ rfl).2.1
  · exact absurd rfl (ends _ rfl).2.2.1
  · exact absurd rfl (ends _ rfl).2.2.2
  · rfl

theorem digit?_of_isDigit {c : Char} (digit : c.isDigit = true) :
    digit? (UInt8.ofNat c.toNat) = some (c.toNat - '0'.toNat) :=
  forall_ascii
    (fun c => c.isDigit = true → digit? (UInt8.ofNat c.toNat) = some (c.toNat - '0'.toNat))
    (by decide +kernel) c (Numeral.isDigit_ascii digit) digit

/-- Digits are taken to their end, as long as their number is small enough. -/
theorem appendDigits_of_digits {limit : Nat} {digits : List Char}
    (decimal : ∀ c ∈ digits, c.isDigit = true) (n : Nat)
    (small : Nat.ofDigitChars 10 digits n ≤ limit) {left : Bytes}
    (ended : startsWithDigit left = false) :
    appendDigits limit n (encodeChars digits ++ left) =
      (Nat.ofDigitChars 10 digits n, digits.length, left) := by
  induction digits generalizing n with
  | nil =>
    cases left with
    | nil => rfl
    | cons b left =>
      have none : digit? b = none := Option.isSome_eq_false_iff.mp ended |> Option.isNone_iff_eq_none.mp
      simp [encodeChars, appendDigits, none]
  | cons c digits ih =>
    obtain ⟨digit, later⟩ := List.forall_mem_cons.mp decimal
    rw [Nat.ofDigitChars_cons] at small ⊢
    have fits := Nat.le_trans (Numeral.le_ofDigitChars digits _) small
    rw [encodeChars_cons_of_ascii (Numeral.isDigit_ascii digit), appendDigits, digit?_of_isDigit digit]
    simp only [if_pos fits, ih later _ small, List.length_cons]

/-- No numeral but that of zero starts with a zero. -/
theorem decimalDigits_eq_cons {n : Nat} (positive : 0 < n) :
    ∃ c digits, decimalDigits n = c :: digits ∧ c ≠ '0' := by
  induction n using Nat.strongRecOn with
  | ind n ih =>
    have nonzero : ∀ d < 10, 0 < d → d.digitChar ≠ '0' := by decide
    by_cases single : n < 10
    · exact ⟨n.digitChar, [], Nat.toDigits_of_lt_base single, nonzero n single positive⟩
    · obtain ⟨c, digits, first, other⟩ := ih (n / 10) (by omega) (by omega)
      refine ⟨c, digits ++ [(n % 10).digitChar], ?_, other⟩
      rw [decimalDigits, Nat.toDigits_of_base_le (by decide) (by omega), ← decimalDigits, first]
      rfl

/-- The decimal digits of a number are read as the number. -/
theorem unsigned_decimalDigits (negative : Bool) {n : Nat} (small : n ≤ greatestSignificand)
    {left : Bytes} (ends : EndsNumber left) :
    unsigned negative (encodeChars (decimalDigits n) ++ left) = integer negative n left := by
  have ended := ends.startsWithDigit
  by_cases zero : n = 0
  · subst zero
    have read : unsigned negative (0x30 :: left) = integer negative 0 left := by
      rw [unsigned.eq_def, ← afterInteger_of_endsNumber negative 0 ends]
      exact if_neg (by simp [ended])
    exact read
  · obtain ⟨c, digits, written, nonzero⟩ := decimalDigits_eq_cons (Nat.pos_of_ne_zero zero)
    have decimal : ∀ d ∈ c :: digits, d.isDigit = true := fun d member =>
      Nat.isDigit_of_mem_toDigits (by decide) (by decide) (written ▸ member)
    obtain ⟨digit, later⟩ := List.forall_mem_cons.mp decimal
    have value : Nat.ofDigitChars 10 digits (c.toNat - '0'.toNat) = n := by
      have whole := Nat.ofDigitChars_ten_toDigits (n := n)
      rw [← decimalDigits, written, Nat.ofDigitChars_cons] at whole
      simpa using whole
    have first : c.toNat - '0'.toNat ≠ 0 := forall_ascii
      (fun c => c.isDigit = true → c ≠ '0' → c.toNat - '0'.toNat ≠ 0) (by decide +kernel) c
      (Numeral.isDigit_ascii digit) digit nonzero
    obtain ⟨d, succ⟩ := Nat.exists_eq_succ_of_ne_zero first
    rw [succ] at value
    have taken := appendDigits_of_digits later (d + 1) (value ▸ small) ended
    rw [written, encodeChars_cons_of_ascii (Numeral.isDigit_ascii digit), unsigned.eq_def]
    simp only [digit?_of_isDigit digit, succ, Nat.succ_eq_add_one, taken, ended, Bool.false_eq_true,
      if_false, value, afterInteger_of_endsNumber negative n ends]

theorem integer_of_isWord {n : Int} (word : IsWord n) (left : Bytes) :
    integer (decide (n < 0)) n.natAbs left = .ok (.integer n word, left) := by
  have given : Number.ofInt? n = some (.integer n word) := dif_pos word
  by_cases negative : n < 0
  · have absolute : -(n.natAbs : Int) = n := by omega
    have nonzero : n.natAbs ≠ 0 := by omega
    simp only [integer, negative, decide_true, if_true, nonzero, if_false, absolute, given]
  · have absolute : (n.natAbs : Int) = n := by omega
    simp only [integer, negative, decide_false, Bool.false_eq_true, if_false, absolute, given]

end NumberReader

/-! ## Strings -/

namespace StringReader

/-- However much fuel there is beyond what is needed, the bytes are gone through to the quote that
closes them, and these bytes are collected. -/
def Collects (bytes units left : Bytes) : Prop :=
  ∀ fuel, bytes.length ≤ fuel → ∃ us, body fuel bytes = .ok (us, left) ∧ us.map Prod.fst = units

theorem collects_close (left : Bytes) : Collects (0x22 :: left) [] left := by
  intro fuel enough
  cases fuel with
  | zero => cases enough
  | succ fuel => exact ⟨[], rfl, rfl⟩

theorem Collects.raw {rest units left : Bytes} (later : Collects rest units left) {b : UInt8}
    (visible : 0x20 ≤ b) (unquoted : b ≠ 0x22) (unescaped : b ≠ 0x5C) :
    Collects (b :: rest) (b :: units) left := by
  intro fuel enough
  cases fuel with
  | zero => cases enough
  | succ fuel =>
    obtain ⟨us, read, rfl⟩ := later fuel (Nat.le_of_succ_le_succ enough)
    refine ⟨(b, rest) :: us, ?_, rfl⟩
    rw [body, if_neg unquoted, if_neg unescaped, if_neg (UInt8.not_lt.mpr visible), read]
    rfl

theorem Collects.raws {rest units left : Bytes} (later : Collects rest units left) {bytes : Bytes}
    (plain : ∀ b ∈ bytes, 0x20 ≤ b ∧ b ≠ 0x22 ∧ b ≠ 0x5C) :
    Collects (bytes ++ rest) (bytes ++ units) left := by
  induction bytes with
  | nil => exact later
  | cons b bytes ih =>
    obtain ⟨⟨visible, unquoted, unescaped⟩, more⟩ := List.forall_mem_cons.mp plain
    exact (ih more).raw visible unquoted unescaped

theorem Collects.escaped {rest units left : Bytes} (later : Collects rest units left)
    {source : Bytes} {c : Char} (read : escape source = .ok (c, rest))
    (shorter : rest.length ≤ source.length) :
    Collects (0x5C :: source) (String.utf8EncodeChar c ++ units) left := by
  intro fuel enough
  cases fuel with
  | zero => cases enough
  | succ fuel =>
    obtain ⟨us, collected, rfl⟩ :=
      later fuel (Nat.le_trans shorter (Nat.le_of_succ_le_succ enough))
    refine ⟨(String.utf8EncodeChar c).map (·, rest) ++ us, ?_, ?_⟩
    · simp only [body, read, collected, bind, Except.bind, pure, Except.pure]
      rfl
    · rw [List.map_append, List.map_map]
      exact congrArg (· ++ _) (List.map_id _)

/-- An escape of one letter. -/
theorem Collects.short {rest units left : Bytes} (later : Collects rest units left) (b : UInt8)
    (c d : Char) (read : escape (b :: rest) = .ok (c, rest))
    (written : encodeChars ['\\', d] = [0x5C, b]) :
    Collects (encodeChars ['\\', d] ++ rest) (String.utf8EncodeChar c ++ units) left := by
  rw [written]
  exact later.escaped read (Nat.le_succ _)

/-- A control character is escaped by its number. -/
theorem escape_of_control {n : Nat} (control : n < 0x20) (rest : Bytes) :
    escape (encodeChars ['u', '0', '0', hexDigit (n / 16), hexDigit (n % 16)] ++ rest) =
      .ok (Char.ofNat n, rest) := by
  have digits : ∀ n < 0x20,
      let a := UInt8.ofNat (hexDigit (n / 16)).toNat
      let b := UInt8.ofNat (hexDigit (n % 16)).toNat
      encodeChars ['u', '0', '0', hexDigit (n / 16), hexDigit (n % 16)] = [0x75, 0x30, 0x30, a, b] ∧
        hexDigit? a = some (n / 16) ∧ hexDigit? b = some (n % 16) := by decide
  obtain ⟨written, high, low⟩ := digits n control
  have zero : hexDigit? 0x30 = some 0 := by decide
  have value : ((0 * 16 + 0) * 16 + n / 16) * 16 + n % 16 = n := by omega
  have unit : hexUnit (0x30 :: 0x30 :: UInt8.ofNat (hexDigit (n / 16)).toNat ::
      UInt8.ofNat (hexDigit (n % 16)).toNat :: rest) = .ok (n, rest) := by
    simp only [hexUnit, zero, high, low, value]
  have trailing : isTrailingSurrogate n = false := by
    rw [isTrailingSurrogate, Bool.and_eq_false_iff, decide_eq_false_iff_not]
    exact .inl (by omega)
  have leading : isLeadingSurrogate n = false := by
    rw [isLeadingSurrogate, Bool.and_eq_false_iff, decide_eq_false_iff_not]
    exact .inl (by omega)
  rw [written]
  calc escape _ = unicodeEscape _ := rfl
    _ = .ok (Char.ofNat n, rest) := by
      simp [unicodeEscape, unit, trailing, leading, bind, Except.bind, pure, Except.pure]

theorem Collects.escapedChar {rest units left : Bytes} (later : Collects rest units left)
    (c : Char) :
    Collects (encodeChars (escapedChar c) ++ rest) (String.utf8EncodeChar c ++ units) left := by
  unfold Json.escapedChar
  split
  · next quote => exact quote ▸ later.short 0x22 '"' '"' rfl (by decide)
  split
  · next backslash => exact backslash ▸ later.short 0x5C '\\' '\\' rfl (by decide)
  split
  · next newline => exact newline ▸ later.short 0x6E '\n' 'n' rfl (by decide)
  split
  · next feed => exact feed ▸ later.short 0x72 '\r' 'r' rfl (by decide)
  split
  · next tab => exact tab ▸ later.short 0x74 '\t' 't' rfl (by decide)
  have named (n : Nat) (number : c.toNat = n) : c = Char.ofNat n := by
    rw [← number, Char.ofNat_toNat]
  split
  · next backspace => exact named _ backspace ▸ later.short 0x62 '\x08' 'b' rfl (by decide)
  split
  · next feed => exact named _ feed ▸ later.short 0x66 '\x0C' 'f' rfl (by decide)
  split
  · next control =>
    have read := escape_of_control control rest
    rw [Char.ofNat_toNat] at read
    rw [encodeChars_cons_of_ascii (by decide)]
    refine later.escaped read ?_
    rw [List.length_append]
    exact Nat.le_add_left _ _
  · next unquoted unescaped _ _ _ _ _ visible =>
    rw [encodeChars_cons, encodeChars, List.flatMap_nil, List.append_nil]
    refine later.raws fun b member => ?_
    by_cases ascii : c.toNat < 0x80
    · rw [utf8EncodeChar_of_ascii c ascii] at member
      obtain rfl := List.mem_singleton.mp member
      refine ⟨?_, ?_, ?_⟩
      · exact forall_ascii (fun c => ¬ c.toNat < 0x20 → 0x20 ≤ UInt8.ofNat c.toNat)
          (by decide +kernel) c ascii visible
      · exact forall_ascii (fun c => c ≠ '"' → UInt8.ofNat c.toNat ≠ 0x22)
          (by decide +kernel) c ascii unquoted
      · exact forall_ascii (fun c => c ≠ '\\' → UInt8.ofNat c.toNat ≠ 0x5C)
          (by decide +kernel) c ascii unescaped
    · have high := le_of_mem_utf8EncodeChar (Nat.not_lt.mp ascii) member
      refine ⟨UInt8.le_trans (by decide) high, ?_, ?_⟩
      · rintro rfl
        exact absurd high (by decide)
      · rintro rfl
        exact absurd high (by decide)

/-- A quoted string is read back from behind its opening quote. -/
theorem string_of_quotedText (s : String) (left : Bytes) :
    ∃ rest, encodeChars (quotedText s) ++ left = 0x22 :: rest ∧ string rest = .ok (s, left) := by
  have collects (text : List Char) : Collects
      (encodeChars (text.flatMap escapedChar) ++ 0x22 :: left) (encodeChars text) left := by
    induction text with
    | nil => exact collects_close left
    | cons c text ih =>
      rw [List.flatMap_cons, encodeChars_append, List.append_assoc, encodeChars_cons]
      exact ih.escapedChar c
  refine ⟨encodeChars (s.toList.flatMap escapedChar) ++ 0x22 :: left, ?_, ?_⟩
  · have quote : encodeChars ['"'] = [0x22] := by decide
    rw [quotedText, List.cons_append, encodeChars_cons_of_ascii (by decide), encodeChars_append,
      quote, List.append_assoc]
    rfl
  · obtain ⟨units, read, bytes⟩ := collects s.toList _ (Nat.le_refl _)
    have decoded : decodeUnits units = .ok s := by
      rw [decodeUnits, bytes, (decode_eq_ok_iff _ s.toList).mpr rfl]
      simp only [String.ofList_toList]
    simp only [string, read, decoded, bind, Except.bind, pure, Except.pure]

end StringReader

end DocSearch.Json
