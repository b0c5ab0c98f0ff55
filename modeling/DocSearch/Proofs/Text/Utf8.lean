import DocSearch.Text.Utf8

/-!
# UTF-8 there and back

The sequences of the standard as a grammar, one alternative for each length. The encoder writes
them, and the decoder reads nothing else; so a text comes back from its bytes, and bytes that
decode are the bytes of what they decode to. ASCII characters are few enough to be checked one by
one.
-/
namespace DocSearch.Utf8

/-- What holds of all code points below 0x80 holds of every ASCII character. -/
theorem forall_ascii (p : Char → Prop) (checked : ∀ n < 0x80, p (Char.ofNat n)) (c : Char)
    (ascii : c.toNat < 0x80) : p c := by
  rw [← Char.ofNat_toNat c]
  exact checked c.toNat ascii

theorem toNat_ofNat (n : Nat) : (Char.ofNat n).toNat = if n.isValidChar then n else 0 := by
  by_cases valid : n.isValidChar
  · rw [Char.ofNat, dif_pos valid, if_pos valid]
    rfl
  · rw [Char.ofNat, dif_neg valid, if_neg valid]
    rfl

/-! ## The grammar -/

/-- A code point and its sequence, in groups of six bits behind the bits of the lead. The shortest
form is the only one; no surrogate is encoded, and nothing above U+10FFFF. -/
inductive Encodes : Nat → Bytes → Prop
  | one {v : Nat} : v < 0x80 → Encodes v [UInt8.ofNat v]
  | two {k t : Nat} : 2 ≤ k → k < 0x20 → t < 0x40 →
      Encodes (k * 64 + t) [UInt8.ofNat (k + 0xC0), UInt8.ofNat (t + 0x80)]
  | three {k t u : Nat} : k < 0x10 → t < 0x40 → u < 0x40 → (k = 0 → 0x20 ≤ t) →
      (k = 0xD → t < 0x20) → Encodes ((k * 64 + t) * 64 + u)
        [UInt8.ofNat (k + 0xE0), UInt8.ofNat (t + 0x80), UInt8.ofNat (u + 0x80)]
  | four {k t u w : Nat} : k < 5 → t < 0x40 → u < 0x40 → w < 0x40 → (k = 0 → 0x10 ≤ t) →
      (k = 4 → t < 0x10) → Encodes (((k * 64 + t) * 64 + u) * 64 + w)
        [UInt8.ofNat (k + 0xF0), UInt8.ofNat (t + 0x80), UInt8.ofNat (u + 0x80),
          UInt8.ofNat (w + 0x80)]

theorem Encodes.isValidChar {v : Nat} {bytes : Bytes} (encodes : Encodes v bytes) :
    v.isValidChar := by
  rw [Nat.isValidChar]
  cases encodes <;> omega

theorem utf8EncodeChar_of_encodes {v : Nat} {bytes : Bytes} (encodes : Encodes v bytes) :
    String.utf8EncodeChar (Char.ofNat v) = bytes := by
  have value : (Char.ofNat v).val.toNat = v :=
    (toNat_ofNat v).trans (if_pos encodes.isValidChar)
  rw [String.utf8EncodeChar, value]
  clear value
  cases encodes with
  | one bound => rw [if_pos (by omega)]
  | @two k t low high tail =>
    have lead : (k * 64 + t) / 64 % 0x20 = k := by omega
    have first : (k * 64 + t) % 0x40 = t := by omega
    rw [if_neg (by omega), if_pos (by omega), lead, first]
  | @three k t u high tail last long surrogate =>
    have lead : ((k * 64 + t) * 64 + u) / 4096 % 0x10 = k := by omega
    have first : ((k * 64 + t) * 64 + u) / 64 % 0x40 = t := by omega
    have second : ((k * 64 + t) * 64 + u) % 0x40 = u := by omega
    rw [if_neg (by omega), if_neg (by omega), if_pos (by omega), lead, first, second]
  | @four k t u w high tail next last long above =>
    have lead : (((k * 64 + t) * 64 + u) * 64 + w) / 262144 % 0x08 = k := by omega
    have first : (((k * 64 + t) * 64 + u) * 64 + w) / 4096 % 0x40 = t := by omega
    have second : (((k * 64 + t) * 64 + u) * 64 + w) / 64 % 0x40 = u := by omega
    have third : (((k * 64 + t) * 64 + u) * 64 + w) % 0x40 = w := by omega
    rw [if_neg (by omega), if_neg (by omega), if_neg (by omega), lead, first, second, third]

/-- The bytes of a character are its sequence. -/
theorem encodes_utf8EncodeChar (c : Char) : Encodes c.toNat (String.utf8EncodeChar c) := by
  suffices spelled : ∃ bytes, Encodes c.toNat bytes by
    obtain ⟨bytes, encodes⟩ := spelled
    have whole := utf8EncodeChar_of_encodes encodes
    rw [Char.ofNat_toNat] at whole
    rwa [whole]
  have valid : c.toNat < 0xD800 ∨ 0xDFFF < c.toNat ∧ c.toNat < 0x110000 := c.valid
  generalize c.toNat = v at valid
  obtain one | two | three | four : v < 0x80 ∨ (0x80 ≤ v ∧ v < 0x800) ∨
      (0x800 ≤ v ∧ v < 0x10000) ∨ 0x10000 ≤ v := by omega
  · exact ⟨_, .one one⟩
  · have sextets : v = v / 64 * 64 + v % 64 := by omega
    rw [sextets]
    exact ⟨_, .two (by omega) (by omega) (by omega)⟩
  · have sextets : v = (v / 4096 * 64 + v / 64 % 64) * 64 + v % 64 := by omega
    rw [sextets]
    exact ⟨_, .three (by omega) (by omega) (by omega) (by omega) (by omega)⟩
  · have sextets : v = ((v / 262144 * 64 + v / 4096 % 64) * 64 + v / 64 % 64) * 64 + v % 64 := by
      omega
    rw [sextets]
    exact ⟨_, .four (by omega) (by omega) (by omega) (by omega) (by omega) (by omega)⟩

/-- An ASCII character is one byte. -/
theorem utf8EncodeChar_of_ascii (c : Char) (ascii : c.toNat < 0x80) :
    String.utf8EncodeChar c = [UInt8.ofNat c.toNat] := by
  have single : c.toNat ≤ 0x7F := by omega
  exact if_pos single

/-- The first byte of a character can be told from those that follow it, and tells whether the
character is ASCII. -/
theorem utf8EncodeChar_eq_cons (c : Char) :
    ∃ b tails, String.utf8EncodeChar c = b :: tails ∧
      (c.toNat < 0x80 ∧ b < 0x80 ∨ 0x80 ≤ c.toNat ∧ 0xC0 ≤ b) ∧
      ∀ t ∈ tails, 0x80 ≤ t ∧ t < 0xC0 := by
  have lead (n : Nat) (low : 0xC0 ≤ n) (bound : n < 0x100) : 0xC0 ≤ UInt8.ofNat n := by
    rw [UInt8.le_iff_toNat_le, UInt8.toNat_ofNat_of_lt' bound]
    exact low
  have tail (t : Nat) (small : t < 0x40) :
      0x80 ≤ UInt8.ofNat (t + 0x80) ∧ UInt8.ofNat (t + 0x80) < 0xC0 := by
    have bound : t + 0x80 < UInt8.size := Nat.add_lt_add_right (Nat.lt_trans small (by decide)) 0x80
    rw [UInt8.le_iff_toNat_le, UInt8.lt_iff_toNat_lt, UInt8.toNat_ofNat_of_lt' bound]
    exact ⟨Nat.le_add_left _ _, Nat.add_lt_add_right small _⟩
  have encodes := encodes_utf8EncodeChar c
  generalize c.toNat = v, String.utf8EncodeChar c = bytes at encodes
  cases encodes with
  | one ascii =>
    have below : UInt8.ofNat v < 0x80 := by
      rw [UInt8.lt_iff_toNat_lt, UInt8.toNat_ofNat_of_lt' (Nat.lt_trans ascii (by decide))]
      exact ascii
    exact ⟨_, _, rfl, .inl ⟨ascii, below⟩, List.forall_mem_nil _⟩
  | two low high first =>
    refine ⟨_, _, rfl, .inr ⟨by omega, lead _ (by omega) (by omega)⟩, ?_⟩
    exact List.forall_mem_singleton.mpr (tail _ first)
  | three high first second =>
    refine ⟨_, _, rfl, .inr ⟨by omega, lead _ (by omega) (by omega)⟩, ?_⟩
    exact List.forall_mem_cons.mpr ⟨tail _ first, List.forall_mem_singleton.mpr (tail _ second)⟩
  | four high first second third =>
    refine ⟨_, _, rfl, .inr ⟨by omega, lead _ (by omega) (by omega)⟩, ?_⟩
    refine List.forall_mem_cons.mpr ⟨tail _ first, ?_⟩
    exact List.forall_mem_cons.mpr ⟨tail _ second, List.forall_mem_singleton.mpr (tail _ third)⟩

/-- No byte of a character beyond ASCII is one of ASCII. -/
theorem le_of_mem_utf8EncodeChar {c : Char} (other : 0x80 ≤ c.toNat) {b : UInt8}
    (member : b ∈ String.utf8EncodeChar c) : 0x80 ≤ b := by
  obtain ⟨first, tails, bytes, ⟨ascii, -⟩ | ⟨-, lead⟩, range⟩ := utf8EncodeChar_eq_cons c
  · exact absurd ascii (Nat.not_lt.mpr other)
  · rw [bytes] at member
    obtain rfl | later := List.mem_cons.mp member
    · exact UInt8.le_trans (by decide) lead
    · exact (range b later).1

/-! ## The bytes of a text -/

theorem encodeChars_cons (c : Char) (text : List Char) :
    encodeChars (c :: text) = String.utf8EncodeChar c ++ encodeChars text :=
  List.flatMap_cons

theorem encodeChars_append (a b : List Char) :
    encodeChars (a ++ b) = encodeChars a ++ encodeChars b :=
  List.flatMap_append

/-- A text is known from its bytes. -/
theorem encodeChars_injective (a b : List Char) (same : encodeChars a = encodeChars b) :
    a = b := by
  have bytes : a.utf8Encode = b.utf8Encode := by
    simp only [List.utf8Encode]
    exact congrArg List.toByteArray same
  have read := congrArg ByteArray.utf8Decode? bytes
  simpa using read

theorem encode_injective (a b : String) (same : encode a = encode b) : a = b :=
  String.toList_inj.mp (encodeChars_injective a.toList b.toList same)

/-! ## Leads and tails -/

/-- The leads, by the leading bits of the code points they start. -/
inductive Leads : Nat → Lead → Prop
  | one {n : Nat} : n < 0x80 → Leads n ⟨0, 0x80, 0xBF, n⟩
  | two {k : Nat} : 2 ≤ k → k < 0x20 → Leads (k + 0xC0) ⟨1, 0x80, 0xBF, k⟩
  | three {k : Nat} : k < 0x10 → Leads (k + 0xE0)
      ⟨2, if k = 0 then 0xA0 else 0x80, if k = 0xD then 0x9F else 0xBF, k⟩
  | four {k : Nat} : k < 5 → Leads (k + 0xF0)
      ⟨3, if k = 0 then 0x90 else 0x80, if k = 4 then 0x8F else 0xBF, k⟩

theorem lead?_of_leads {n : Nat} {l : Lead} (leads : Leads n l) :
    lead? (UInt8.ofNat n) = some l := by
  have ones : ∀ n < 0x80, lead? (UInt8.ofNat n) = some ⟨0, 0x80, 0xBF, n⟩ := by decide
  have twos : ∀ k < 0x20, 2 ≤ k → lead? (UInt8.ofNat (k + 0xC0)) = some ⟨1, 0x80, 0xBF, k⟩ := by
    decide
  have threes : ∀ k < 0x10, lead? (UInt8.ofNat (k + 0xE0)) =
      some ⟨2, if k = 0 then 0xA0 else 0x80, if k = 0xD then 0x9F else 0xBF, k⟩ := by decide
  have fours : ∀ k < 5, lead? (UInt8.ofNat (k + 0xF0)) =
      some ⟨3, if k = 0 then 0x90 else 0x80, if k = 4 then 0x8F else 0xBF, k⟩ := by decide
  cases leads with
  | one high => exact ones n high
  | @two k low high => exact twos k high low
  | @three k high => exact threes k high
  | @four k high => exact fours k high

theorem leads_of_lead? {b : UInt8} {l : Lead} (lead : lead? b = some l) : Leads b.toNat l := by
  have bound := b.toNat_lt
  rw [← UInt8.ofNat_toNat (x := b)] at lead
  generalize b.toNat = n at lead bound ⊢
  have tails : ∀ n < 0xC2, 0x80 ≤ n → lead? (UInt8.ofNat n) = none := by decide +kernel
  have above : ∀ n < 0x100, 0xF5 ≤ n → lead? (UInt8.ofNat n) = none := by decide +kernel
  obtain ⟨found, leads⟩ : ∃ found, Leads n found := by
    obtain one | none | two | three | four | none : n < 0x80 ∨ (0x80 ≤ n ∧ n < 0xC2) ∨
        (0xC2 ≤ n ∧ n < 0xE0) ∨ (0xE0 ≤ n ∧ n < 0xF0) ∨ (0xF0 ≤ n ∧ n < 0xF5) ∨ 0xF5 ≤ n := by
      omega
    · exact ⟨_, .one one⟩
    · cases (tails n none.2 none.1).symm.trans lead
    · obtain ⟨k, rfl⟩ := Nat.exists_eq_add_of_le' (Nat.le_trans (by decide : 0xC0 ≤ 0xC2) two.1)
      exact ⟨_, .two (by omega) (by omega)⟩
    · obtain ⟨k, rfl⟩ := Nat.exists_eq_add_of_le' three.1
      exact ⟨_, .three (by omega)⟩
    · obtain ⟨k, rfl⟩ := Nat.exists_eq_add_of_le' four.1
      exact ⟨_, .four (by omega)⟩
    · cases (above n bound none).symm.trans lead
  cases lead.symm.trans (lead?_of_leads leads)
  exact leads

/-- One tail taken: its six bits go behind those that are there. -/
theorem takeTails_succ_eq_some_iff (n : Nat) {low high : UInt8} (code : Nat) (bytes : Bytes)
    (out : Nat) (left : Bytes) (tails : 0x80 ≤ low.toNat) :
    takeTails (n + 1) low high code bytes = (some out, left) ↔
      ∃ t rest, bytes = UInt8.ofNat (t + 0x80) :: rest ∧
        (low.toNat ≤ t + 0x80 ∧ t + 0x80 ≤ high.toNat) ∧
        takeTails n 0x80 0xBF (code * 64 + t) rest = (some out, left) := by
  have top := high.toNat_lt
  cases bytes with
  | nil => simp [takeTails]
  | cons b rest =>
    simp only [takeTails, UInt8.le_iff_toNat_le]
    constructor
    · intro taken
      split at taken
      · rename_i inside
        refine ⟨b.toNat - 0x80, rest, ?_, by omega, taken⟩
        rw [Nat.sub_add_cancel (by omega), UInt8.ofNat_toNat]
      · cases taken
    · rintro ⟨t, rest, same, inside, taken⟩
      obtain ⟨rfl, rfl⟩ := List.cons.inj same
      have value : (UInt8.ofNat (t + 0x80)).toNat = t + 0x80 := by
        rw [UInt8.toNat_ofNat']
        omega
      rw [value, if_pos inside, Nat.add_sub_cancel]
      exact taken

/-- The first of two tails. -/
theorem takeTails_three_eq_some_iff (n k code : Nat) (bytes : Bytes) (out : Nat) (left : Bytes) :
    takeTails (n + 1) (if k = 0 then 0xA0 else 0x80) (if k = 0xD then 0x9F else 0xBF) code bytes =
        (some out, left) ↔
      ∃ t rest, bytes = UInt8.ofNat (t + 0x80) :: rest ∧
        (t < 0x40 ∧ (k = 0 → 0x20 ≤ t) ∧ (k = 0xD → t < 0x20)) ∧
        takeTails n 0x80 0xBF (code * 64 + t) rest = (some out, left) := by
  have range (t : Nat) : ((if k = 0 then (0xA0 : UInt8) else 0x80).toNat ≤ t + 0x80 ∧
      t + 0x80 ≤ (if k = 0xD then (0x9F : UInt8) else 0xBF).toNat) ↔
      t < 0x40 ∧ (k = 0 → 0x20 ≤ t) ∧ (k = 0xD → t < 0x20) := by
    split <;> split <;> simp only [UInt8.reduceToNat] <;> omega
  rw [takeTails_succ_eq_some_iff n code bytes out left (by split <;> decide)]
  simp only [range]

/-- The first of three tails. -/
theorem takeTails_four_eq_some_iff (n k code : Nat) (bytes : Bytes) (out : Nat) (left : Bytes) :
    takeTails (n + 1) (if k = 0 then 0x90 else 0x80) (if k = 4 then 0x8F else 0xBF) code bytes =
        (some out, left) ↔
      ∃ t rest, bytes = UInt8.ofNat (t + 0x80) :: rest ∧
        (t < 0x40 ∧ (k = 0 → 0x10 ≤ t) ∧ (k = 4 → t < 0x10)) ∧
        takeTails n 0x80 0xBF (code * 64 + t) rest = (some out, left) := by
  have range (t : Nat) : ((if k = 0 then (0x90 : UInt8) else 0x80).toNat ≤ t + 0x80 ∧
      t + 0x80 ≤ (if k = 4 then (0x8F : UInt8) else 0xBF).toNat) ↔
      t < 0x40 ∧ (k = 0 → 0x10 ≤ t) ∧ (k = 4 → t < 0x10) := by
    split <;> split <;> simp only [UInt8.reduceToNat] <;> omega
  rw [takeTails_succ_eq_some_iff n code bytes out left (by split <;> decide)]
  simp only [range]

/-- Of a first tail after two leading bits, and of all tails after the first one, nothing more is
asked than that they are tails. -/
theorem takeTails_tail_eq_some_iff (n code : Nat) (bytes : Bytes) (out : Nat) (left : Bytes) :
    takeTails (n + 1) 0x80 0xBF code bytes = (some out, left) ↔
      ∃ t rest, bytes = UInt8.ofNat (t + 0x80) :: rest ∧ t < 0x40 ∧
        takeTails n 0x80 0xBF (code * 64 + t) rest = (some out, left) := by
  have range (t : Nat) : (UInt8.toNat 0x80 ≤ t + 0x80 ∧ t + 0x80 ≤ UInt8.toNat 0xBF) ↔
      t < 0x40 := by
    simp only [UInt8.reduceToNat]
    omega
  rw [takeTails_succ_eq_some_iff n code bytes out left (by decide : 0x80 ≤ UInt8.toNat 0x80)]
  simp only [range]

/-! ## One sequence -/

/-- What a lead and its tails spell. -/
theorem Leads.encodes {n : Nat} {l : Lead} (leads : Leads n l) {rest : Bytes} {v : Nat}
    {left : Bytes} (taken : takeTails l.tails l.low l.high l.bits rest = (some v, left)) :
    ∃ bytes, Encodes v bytes ∧ UInt8.ofNat n :: rest = bytes ++ left := by
  cases leads with
  | one bound =>
    cases taken
    exact ⟨_, .one bound, rfl⟩
  | two low high =>
    obtain ⟨t, rest, rfl, tail, taken⟩ := (takeTails_tail_eq_some_iff _ _ _ _ _).mp taken
    cases taken
    exact ⟨_, .two low high tail, rfl⟩
  | three high =>
    obtain ⟨t, rest, rfl, ⟨first, long, surrogate⟩, taken⟩ :=
      (takeTails_three_eq_some_iff _ _ _ _ _ _).mp taken
    obtain ⟨u, rest, rfl, tail, taken⟩ := (takeTails_tail_eq_some_iff _ _ _ _ _).mp taken
    cases taken
    exact ⟨_, .three high first tail long surrogate, rfl⟩
  | four high =>
    obtain ⟨t, rest, rfl, ⟨first, long, above⟩, taken⟩ :=
      (takeTails_four_eq_some_iff _ _ _ _ _ _).mp taken
    obtain ⟨u, rest, rfl, second, taken⟩ := (takeTails_tail_eq_some_iff _ _ _ _ _).mp taken
    obtain ⟨w, rest, rfl, tail, taken⟩ := (takeTails_tail_eq_some_iff _ _ _ _ _).mp taken
    cases taken
    exact ⟨_, .four high first second tail long above, rfl⟩

/-- A sequence is a lead with its tails, whatever comes after it. -/
theorem Encodes.leads {v : Nat} {bytes : Bytes} (encodes : Encodes v bytes) {b : UInt8}
    {rest left : Bytes} (same : b :: rest = bytes ++ left) :
    ∃ l, Leads b.toNat l ∧ takeTails l.tails l.low l.high l.bits rest = (some v, left) := by
  have lead (n : Nat) (bound : n < 0x100) : (UInt8.ofNat n).toNat = n :=
    UInt8.toNat_ofNat_of_lt' bound
  cases encodes with
  | one bound =>
    obtain ⟨rfl, rfl⟩ := List.cons.inj same
    rw [lead v (by omega)]
    exact ⟨_, .one bound, rfl⟩
  | two low high tail =>
    obtain ⟨rfl, rfl⟩ := List.cons.inj same
    rw [lead _ (by omega)]
    exact ⟨_, .two low high, (takeTails_tail_eq_some_iff _ _ _ _ _).mpr ⟨_, _, rfl, tail, rfl⟩⟩
  | three high first tail long surrogate =>
    obtain ⟨rfl, rfl⟩ := List.cons.inj same
    rw [lead _ (by omega)]
    refine ⟨_, .three high, (takeTails_three_eq_some_iff _ _ _ _ _ _).mpr
      ⟨_, _, rfl, ⟨first, long, surrogate⟩, ?_⟩⟩
    exact (takeTails_tail_eq_some_iff _ _ _ _ _).mpr ⟨_, _, rfl, tail, rfl⟩
  | four high first second tail long above =>
    obtain ⟨rfl, rfl⟩ := List.cons.inj same
    rw [lead _ (by omega)]
    refine ⟨_, .four high, (takeTails_four_eq_some_iff _ _ _ _ _ _).mpr
      ⟨_, _, rfl, ⟨first, long, above⟩, ?_⟩⟩
    refine (takeTails_tail_eq_some_iff _ _ _ _ _).mpr ⟨_, _, rfl, second, ?_⟩
    exact (takeTails_tail_eq_some_iff _ _ _ _ _).mpr ⟨_, _, rfl, tail, rfl⟩

/-- The decoder reads a character where its bytes stand, and nowhere else. -/
theorem sequence_eq_some_iff (b : UInt8) (rest : Bytes) (c : Char) (left : Bytes) :
    sequence b rest = (some c, left) ↔ b :: rest = String.utf8EncodeChar c ++ left := by
  rw [sequence]
  constructor
  · intro read
    cases lead : lead? b with
    | none => simp [lead] at read
    | some l =>
      simp only [lead, Prod.mk.injEq, Option.map_eq_some_iff] at read
      obtain ⟨⟨v, code, rfl⟩, onward⟩ := read
      obtain ⟨bytes, encodes, whole⟩ := (leads_of_lead? lead).encodes (Prod.ext code onward)
      rw [UInt8.ofNat_toNat] at whole
      rwa [utf8EncodeChar_of_encodes encodes]
  · intro bytes
    obtain ⟨l, leads, taken⟩ := (encodes_utf8EncodeChar c).leads bytes
    have lead := lead?_of_leads leads
    rw [UInt8.ofNat_toNat] at lead
    simp only [lead, taken, Option.map_some, Char.ofNat_toNat]

/-- Where characters stand at the start of the same bytes, they are the same character. -/
theorem utf8EncodeChar_append_inj {c d : Char} {rest left : Bytes}
    (same : String.utf8EncodeChar c ++ rest = String.utf8EncodeChar d ++ left) :
    c = d ∧ rest = left := by
  obtain ⟨b, tails, bytes, -, -⟩ := utf8EncodeChar_eq_cons c
  have first : sequence b (tails ++ rest) = (some c, rest) := by
    rw [sequence_eq_some_iff, bytes, List.cons_append]
  have second : sequence b (tails ++ rest) = (some d, left) := by
    rw [sequence_eq_some_iff, ← same, bytes, List.cons_append]
  rw [first] at second
  exact ⟨Option.some.inj (Prod.ext_iff.mp second).1, (Prod.ext_iff.mp second).2⟩

/-! ## All sequences -/

theorem sequences_utf8EncodeChar_append (c : Char) (rest : Bytes) :
    sequences (String.utf8EncodeChar c ++ rest) =
      (some c, String.utf8EncodeChar c ++ rest) :: sequences rest := by
  obtain ⟨b, tails, bytes, -, -⟩ := utf8EncodeChar_eq_cons c
  have read : sequence b (tails ++ rest) = (some c, rest) := by
    rw [sequence_eq_some_iff, bytes, List.cons_append]
  rw [bytes, List.cons_append, sequences, read]

theorem map_fst_sequences_encodeChars (text : List Char) :
    (sequences (encodeChars text)).map Prod.fst = text.map some := by
  induction text with
  | nil => simp [encodeChars, sequences]
  | cons c text ih =>
    rw [encodeChars_cons, sequences_utf8EncodeChar_append, List.map_cons, List.map_cons, ih]

theorem decode_eq_ok_iff_sequences (bytes : Bytes) (text : List Char) :
    decode bytes = .ok text ↔ (sequences bytes).map Prod.fst = text.map some := by
  have wellFormed : firstIllFormed? bytes = none ↔
      ∀ c ∈ (sequences bytes).map Prod.fst, c.isNone = false := by
    simp [firstIllFormed?, Option.isSome_iff_ne_none]
  have characters : (sequences bytes).filterMap Prod.fst =
      ((sequences bytes).map Prod.fst).filterMap id := by
    rw [List.filterMap_map, Function.id_comp]
  rw [decode, characters]
  generalize (sequences bytes).map Prod.fst = steps at wellFormed
  constructor
  · intro decoded
    cases fault : firstIllFormed? bytes with
    | some offset => simp [fault] at decoded
    | none =>
      simp only [fault, Except.ok.injEq] at decoded
      rw [← decoded]
      have present := wellFormed.mp fault
      clear wellFormed decoded
      induction steps with
      | nil => rfl
      | cons step steps ih =>
        obtain ⟨here, later⟩ := List.forall_mem_cons.mp present
        cases step with
        | none => cases here
        | some c => exact congrArg (List.cons (some c)) (ih later)
  · rintro rfl
    have none : firstIllFormed? bytes = none := by
      rw [wellFormed]
      simp
    rw [none, List.filterMap_map, Function.id_comp, List.filterMap_some]

/-- Bytes decode to a text exactly if they are its bytes. -/
theorem decode_eq_ok_iff (bytes : Bytes) (text : List Char) :
    decode bytes = .ok text ↔ bytes = encodeChars text := by
  rw [decode_eq_ok_iff_sequences]
  constructor
  · intro read
    induction text generalizing bytes with
    | nil =>
      cases bytes with
      | nil => rfl
      | cons b rest => simp [sequences] at read
    | cons c text ih =>
      cases bytes with
      | nil => simp [sequences] at read
      | cons b rest =>
        rw [sequences, List.map_cons, List.map_cons, List.cons.injEq] at read
        have here := (sequence_eq_some_iff b rest c _).mp (Prod.ext read.1 rfl)
        rw [here, encodeChars_cons, ← ih _ read.2]
  · rintro rfl
    exact map_fst_sequences_encodeChars text

/-- The lenient decoder gives a text back from its bytes. -/
theorem decodeLossy_encodeChars (text : List Char) : decodeLossy (encodeChars text) = text := by
  calc decodeLossy (encodeChars text)
      = ((sequences (encodeChars text)).map Prod.fst).map (·.getD '\uFFFD') := by
        rw [List.map_map]
        rfl
    _ = text := by
        rw [map_fst_sequences_encodeChars, List.map_map]
        exact List.map_id text

end DocSearch.Utf8
