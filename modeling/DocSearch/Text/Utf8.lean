/-!
# UTF-8

Characters to bytes and back. The decoder works one sequence at a time and says how far a broken
sequence reaches, so that one step serves three readers: the strict one, the one that names the
first ill-formed byte, and the lenient one that writes U+FFFD for each broken sequence. No byte
order mark is looked for.
-/
namespace DocSearch

/-- A byte string as it comes from, or goes to, the wire. -/
abbrev Bytes := List UInt8

namespace Utf8

/-- What a leading byte announces: how many tails follow, the range of the first one, and the
leading bits of the code point. -/
structure Lead where
  tails : Nat
  low : UInt8
  high : UInt8
  bits : Nat
  deriving DecidableEq, Repr

/-- The sequences of the standard: overlong forms, surrogates and code points above U+10FFFF
have no lead, or are cut off by the range of the first tail. -/
def lead? (b : UInt8) : Option Lead :=
  if b < 0x80 then some ⟨0, 0x80, 0xBF, b.toNat⟩
  else if b < 0xC2 then none
  else if b < 0xE0 then some ⟨1, 0x80, 0xBF, b.toNat - 0xC0⟩
  else if b = 0xE0 then some ⟨2, 0xA0, 0xBF, 0x0⟩
  else if b = 0xED then some ⟨2, 0x80, 0x9F, 0xD⟩
  else if b < 0xF0 then some ⟨2, 0x80, 0xBF, b.toNat - 0xE0⟩
  else if b = 0xF0 then some ⟨3, 0x90, 0xBF, 0x0⟩
  else if b = 0xF4 then some ⟨3, 0x80, 0x8F, 0x4⟩
  else if b < 0xF4 then some ⟨3, 0x80, 0xBF, b.toNat - 0xF0⟩
  else none

/-- Takes the announced tails. A byte outside its range ends the sequence and is left in place. -/
def takeTails : Nat → UInt8 → UInt8 → Nat → Bytes → Option Nat × Bytes
  | 0, _, _, code, rest => (some code, rest)
  | _ + 1, _, _, _, [] => (none, [])
  | n + 1, low, high, code, b :: rest =>
    if low ≤ b ∧ b ≤ high then
      takeTails n 0x80 0xBF (code * 64 + (b.toNat - 0x80)) rest
    else (none, b :: rest)

/-- The sequence that starts with `b`: its character, or `none` for the longest ill-formed part,
and the bytes after it. -/
def sequence (b : UInt8) (rest : Bytes) : Option Char × Bytes :=
  match lead? b with
  | none => (none, rest)
  | some l =>
    let (code, rest) := takeTails l.tails l.low l.high l.bits rest
    (code.map Char.ofNat, rest)

theorem takeTails_length_le (n : Nat) (low high : UInt8) (code : Nat) (bytes : Bytes) :
    (takeTails n low high code bytes).2.length ≤ bytes.length := by
  fun_induction takeTails n low high code bytes with
  | case1 => exact Nat.le_refl _
  | case2 => exact Nat.le_refl _
  | case3 n low high code b rest _ ih => exact Nat.le_succ_of_le ih
  | case4 => exact Nat.le_refl _

theorem sequence_length_le (b : UInt8) (rest : Bytes) :
    (sequence b rest).2.length ≤ rest.length := by
  unfold sequence
  cases lead? b with
  | none => exact Nat.le_refl _
  | some l => exact takeTails_length_le l.tails l.low l.high l.bits rest

/-- The sequences of a byte string, each with the bytes from its own first byte on. -/
def sequences : Bytes → List (Option Char × Bytes)
  | [] => []
  | b :: rest => ((sequence b rest).1, b :: rest) :: sequences (sequence b rest).2
termination_by bytes => bytes.length
decreasing_by exact Nat.lt_succ_of_le (sequence_length_le b rest)

/-- Where the first ill-formed sequence starts, counted from the start, if there is one. -/
def firstIllFormed? (bytes : Bytes) : Option Nat :=
  (sequences bytes).findSome? fun (c, onward) =>
    if c.isNone then some (bytes.length - onward.length) else none

/-- The characters, or the offset of the first ill-formed sequence. -/
def decode (bytes : Bytes) : Except Nat (List Char) :=
  match firstIllFormed? bytes with
  | some offset => .error offset
  | none => .ok ((sequences bytes).filterMap Prod.fst)

/-- The characters, with U+FFFD for each longest ill-formed part. -/
def decodeLossy (bytes : Bytes) : List Char :=
  (sequences bytes).map fun (c, _) => c.getD '\uFFFD'

/-- The bytes of a text. -/
def encodeChars (text : List Char) : Bytes :=
  text.flatMap String.utf8EncodeChar

/-- The bytes of a string. -/
def encode (text : String) : Bytes :=
  encodeChars text.toList

end Utf8
end DocSearch
