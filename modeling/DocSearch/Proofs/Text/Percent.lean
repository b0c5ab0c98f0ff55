import DocSearch.Proofs.Text.Utf8
import DocSearch.Text.Percent

/-!
# Escaped texts read back

Encoding with a set that escapes the percent sign loses nothing: decoding gives the bytes of the
text. What encoding writes is ASCII, and is made of characters outside the set and of escapes.
-/
namespace DocSearch.Percent

/-! ## One escape -/

theorem hexValue_hexDigit (n : Nat) (small : n < 16) : hexValue? (hexDigit n) = some n := by
  have checked : ∀ d : Fin 16, hexValue? (hexDigit d) = some d.val := by decide
  exact checked ⟨n, small⟩

theorem escapedByte_of_halves (b : UInt8) :
    escapedByte? (hexDigit (b.toNat / 16)) (hexDigit (b.toNat % 16)) = some b := by
  have bound := b.toNat_lt
  have high := hexValue_hexDigit (b.toNat / 16) (by omega)
  have low := hexValue_hexDigit (b.toNat % 16) (by omega)
  have whole : b.toNat / 16 * 16 + b.toNat % 16 = b.toNat := by omega
  simp only [escapedByte?, high, low, Option.bind_eq_bind, Option.bind_some, whole]
  exact congrArg some (UInt8.ofNat_toNat)

theorem decode_escape (b : UInt8) (rest : List Char) :
    decode (escape b ++ rest) = b :: decode rest := by
  simp [escape, decode, escapedByte_of_halves]

theorem decode_escapes (bytes : Bytes) (rest : List Char) :
    decode (bytes.flatMap escape ++ rest) = bytes ++ decode rest := by
  induction bytes with
  | nil => rfl
  | cons b bytes ih =>
    rw [List.flatMap_cons, List.append_assoc, decode_escape, ih, List.cons_append]

theorem decode_cons_of_ne (c : Char) (rest : List Char) (plain : c ≠ '%') :
    decode (c :: rest) = String.utf8EncodeChar c ++ decode rest := by
  rw [decode.eq_def]
  simp [plain]

/-- A text without a percent sign stands for its own bytes. -/
theorem decode_of_no_percent (text : List Char) (plain : '%' ∉ text) :
    decode text = Utf8.encodeChars text := by
  induction text with
  | nil => rfl
  | cons c text ih =>
    simp only [List.mem_cons, not_or] at plain
    rw [decode_cons_of_ne c text (Ne.symm plain.1), ih plain.2]
    rfl

/-! ## Encoded texts -/

section
variable (set : Char → Bool)

theorem decode_encodeChar (percent : set '%' = true) (c : Char) (rest : List Char) :
    decode (encodeChar set c ++ rest) = String.utf8EncodeChar c ++ decode rest := by
  unfold encodeChar
  split
  · next kept =>
    have plain : c ≠ '%' := by
      intro same
      subst same
      simp [percent] at kept
    exact decode_cons_of_ne c rest plain
  · exact decode_escapes (String.utf8EncodeChar c) rest

/-- Decoding undoes encoding, as the percent sign is escaped itself. -/
theorem decode_encode (percent : set '%' = true) (text : List Char) :
    decode (encode set text) = Utf8.encodeChars text := by
  induction text with
  | nil => rfl
  | cons c text ih =>
    calc decode (encode set (c :: text))
        = String.utf8EncodeChar c ++ decode (encode set text) :=
          decode_encodeChar set percent c (encode set text)
      _ = Utf8.encodeChars (c :: text) := by rw [ih]; rfl

/-- Texts with one encoding are one text. -/
theorem encode_injective (percent : set '%' = true) (a b : List Char)
    (same : encode set a = encode set b) : a = b := by
  have bytes := congrArg decode same
  rw [decode_encode set percent, decode_encode set percent] at bytes
  exact Utf8.encodeChars_injective a b bytes

/-- An ASCII text without characters of the set is written as it is. -/
theorem encode_eq_self (text : List Char)
    (kept : ∀ c ∈ text, c.toNat < 0x80 ∧ set c = false) : encode set text = text := by
  induction text with
  | nil => rfl
  | cons c text ih =>
    obtain ⟨⟨ascii, free⟩, rest⟩ := List.forall_mem_cons.mp kept
    have here : encodeChar set c = [c] := by simp [encodeChar, ascii, free]
    calc encode set (c :: text) = encodeChar set c ++ encode set text := rfl
      _ = c :: text := by rw [here, ih rest]; rfl

/-- What encoding writes: characters it leaves alone, and the signs of escapes. -/
theorem mem_encode (text : List Char) (c : Char) (written : c ∈ encode set text) :
    (c.toNat < 0x80 ∧ set c = false) ∨ c = '%' ∨ ∃ n, n < 16 ∧ c = hexDigit n := by
  obtain ⟨source, -, image⟩ := List.mem_flatMap.mp written
  unfold encodeChar at image
  split at image
  · next kept =>
    rw [List.mem_singleton.mp image]
    exact .inl (by simpa using kept)
  · obtain ⟨b, -, sign⟩ := List.mem_flatMap.mp image
    have bound := b.toNat_lt
    simp only [escape, List.mem_cons, List.not_mem_nil, or_false] at sign
    rcases sign with mark | high | low
    · exact .inr (.inl mark)
    · exact .inr (.inr ⟨b.toNat / 16, by omega, high⟩)
    · exact .inr (.inr ⟨b.toNat % 16, by omega, low⟩)

end

/-! ## Where escapes stand -/

def upperHexDigits : List Char := "0123456789ABCDEF".toList

theorem hexDigit_mem_upperHexDigits (n : Nat) (small : n < 16) : hexDigit n ∈ upperHexDigits := by
  have checked : ∀ d < 16, hexDigit d ∈ upperHexDigits := by decide
  exact checked n small

/-- Every percent sign starts an escape, of two digits in upper case. -/
def EscapesAreWhole (text : List Char) : Prop :=
  ∀ before after, text = before ++ '%' :: after →
    ∃ high ∈ upperHexDigits, ∃ low ∈ upperHexDigits, ∃ rest, after = high :: low :: rest

theorem EscapesAreWhole.append {front back : List Char} (first : EscapesAreWhole front)
    (second : EscapesAreWhole back) : EscapesAreWhole (front ++ back) := by
  intro before after split
  obtain ⟨between, rfl, same⟩ | ⟨between, rfl, same⟩ := List.append_eq_append_iff.mp split
  · exact second between after same
  · cases between with
    | nil => exact second [] after same.symm
    | cons sign between =>
      obtain ⟨rfl, rfl⟩ := List.cons.inj same
      obtain ⟨high, upper, low, lower, rest, rfl⟩ := first before between rfl
      exact ⟨high, upper, low, lower, rest ++ back, rfl⟩

theorem escapesAreWhole_flatMap {α : Type} (write : α → List Char) (sources : List α)
    (each : ∀ source ∈ sources, EscapesAreWhole (write source)) :
    EscapesAreWhole (sources.flatMap write) := by
  induction sources with
  | nil => simp [EscapesAreWhole]
  | cons source sources ih =>
    obtain ⟨here, later⟩ := List.forall_mem_cons.mp each
    rw [List.flatMap_cons]
    exact here.append (ih later)

theorem escapesAreWhole_escape (b : UInt8) : EscapesAreWhole (escape b) := by
  have bound := b.toNat_lt
  have high := hexDigit_mem_upperHexDigits (b.toNat / 16) (by omega)
  have low := hexDigit_mem_upperHexDigits (b.toNat % 16) (by omega)
  have sign : '%' ∉ upperHexDigits := by decide
  intro before after split
  -- the sign is the first of the three, as neither digit is one
  match before, split with
  | [], split => exact ⟨_, high, _, low, [], (List.cons.inj split).2.symm⟩
  | [_], split =>
    simp only [escape, List.cons_append, List.nil_append, List.cons.injEq] at split
    exact absurd (split.2.1 ▸ high) sign
  | [_, _], split =>
    simp only [escape, List.cons_append, List.nil_append, List.cons.injEq] at split
    exact absurd (split.2.2.1 ▸ low) sign
  | _ :: _ :: _ :: _, split => simp [escape] at split

theorem escapesAreWhole_encode (set : Char → Bool) (percent : set '%' = true) (text : List Char) :
    EscapesAreWhole (encode set text) := by
  refine escapesAreWhole_flatMap _ text fun c _ => ?_
  unfold encodeChar
  split
  · next kept =>
    intro before after split
    obtain rfl : '%' = c := by
      rw [← List.mem_singleton, split]
      exact List.mem_append_right before List.mem_cons_self
    simp [percent] at kept
  · exact escapesAreWhole_flatMap escape _ fun b _ => escapesAreWhole_escape b

end DocSearch.Percent
