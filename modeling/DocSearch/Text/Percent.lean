import DocSearch.Text.Utf8

/-!
# Percent-encoding

A byte written as a percent sign and two upper-case hexadecimal digits. Encoding a text escapes
the ASCII characters of a set and everything that is not ASCII; decoding gives bytes, and leaves a
percent sign that starts no escape as it is.
-/
namespace DocSearch.Percent

/-- A hexadecimal digit in upper case, for a value below sixteen. -/
def hexDigit (n : Nat) : Char := (Nat.digitChar n).toUpper

/-- The escape of a byte. -/
def escape (b : UInt8) : List Char :=
  ['%', hexDigit (b.toNat / 16), hexDigit (b.toNat % 16)]

/-- A character, escaped if it is not ASCII or belongs to the set. -/
def encodeChar (set : Char → Bool) (c : Char) : List Char :=
  if c.toNat < 0x80 && !set c then [c]
  else (String.utf8EncodeChar c).flatMap escape

/-- The text with the characters of the set escaped. -/
def encode (set : Char → Bool) (text : List Char) : List Char :=
  text.flatMap (encodeChar set)

/-- The value of a hexadecimal digit in either case. -/
def hexValue? (c : Char) : Option Nat :=
  if '0' ≤ c ∧ c ≤ '9' then some (c.toNat - '0'.toNat)
  else if 'a' ≤ c ∧ c ≤ 'f' then some (c.toNat - 'a'.toNat + 10)
  else if 'A' ≤ c ∧ c ≤ 'F' then some (c.toNat - 'A'.toNat + 10)
  else none

/-- The byte two hexadecimal digits stand for. -/
def escapedByte? (high low : Char) : Option UInt8 := do
  return UInt8.ofNat ((← hexValue? high) * 16 + (← hexValue? low))

/-- The bytes of a text, escapes resolved. -/
def decode : List Char → Bytes
  | [] => []
  | c :: rest =>
    if c = '%' then
      match rest with
      | high :: low :: more =>
        match escapedByte? high low with
        | some b => b :: decode more
        | none => 0x25 :: decode (high :: low :: more)
      | [] => [0x25]
      | [d] => 0x25 :: decode [d]
    else String.utf8EncodeChar c ++ decode rest

/-- Controls: below the space, and DEL. -/
def isControl (c : Char) : Bool := c.toNat < 0x20 || c.toNat == 0x7F

/-- Controls and the characters of a list. -/
def controlsAnd (more : List Char) (c : Char) : Bool := isControl c || more.contains c

/-- What ends or splits a path segment, or is not allowed in a URL. -/
def isSegmentDelimiter : Char → Bool :=
  controlsAnd [' ', '"', '#', '%', '/', '<', '>', '?', '\\', '`', '\x7b', '\x7d']

end DocSearch.Percent
