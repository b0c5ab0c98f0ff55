import DocSearch.Json.NumberReader

/-!
# Reading JSON strings

A string is read up to its closing quote first, escapes resolved to bytes, and only then decoded.
So a fault inside the string wins over ill-formed text before it; ill-formed text is reported at
its first byte.
-/
namespace DocSearch.Json.StringReader

def hexDigit? (b : UInt8) : Option Nat :=
  if 0x30 ≤ b ∧ b ≤ 0x39 then some (b.toNat - 0x30)
  else if 0x61 ≤ b ∧ b ≤ 0x66 then some (b.toNat - 0x61 + 10)
  else if 0x41 ≤ b ∧ b ≤ 0x46 then some (b.toNat - 0x41 + 10)
  else none

/-- Four hexadecimal digits. -/
def hexUnit : Reader Nat
  | a :: b :: c :: d :: rest =>
    match hexDigit? a, hexDigit? b, hexDigit? c, hexDigit? d with
    | some a, some b, some c, some d => .ok (((a * 16 + b) * 16 + c) * 16 + d, rest)
    | _, _, _, _ => fail .invalidEscape rest
  | _ => fail .endInString []

def isLeadingSurrogate (n : Nat) : Bool := 0xD800 ≤ n && n ≤ 0xDBFF

def isTrailingSurrogate (n : Nat) : Bool := 0xDC00 ≤ n && n ≤ 0xDFFF

/-- The byte that has to come next inside a pair of escapes. -/
def pairByte (expected : UInt8) : Reader Unit
  | [] => fail .endInString []
  | b :: rest => if b = expected then .ok ((), rest) else fail .endOfHexEscape rest

/-- An escaped code unit; a leading surrogate needs its partner right behind it. -/
def unicodeEscape : Reader Char := fun bytes => do
  let (first, rest) ← hexUnit bytes
  if isTrailingSurrogate first then fail .loneSurrogate rest
  else if isLeadingSurrogate first then
    let ((), rest) ← pairByte 0x5C rest
    let ((), rest) ← pairByte 0x75 rest
    let (second, rest) ← hexUnit rest
    if isTrailingSurrogate second then
      return (Char.ofNat ((first - 0xD800) * 0x400 + (second - 0xDC00) + 0x10000), rest)
    else fail .loneSurrogate rest
  else return (Char.ofNat first, rest)

/-- The character of an escape, after its backslash. -/
def escape : Reader Char
  | [] => fail .endInString []
  | b :: rest =>
    if b = 0x22 then .ok ('"', rest)
    else if b = 0x5C then .ok ('\\', rest)
    else if b = 0x2F then .ok ('/', rest)
    else if b = 0x62 then .ok ('\x08', rest)
    else if b = 0x66 then .ok ('\x0C', rest)
    else if b = 0x6E then .ok ('\n', rest)
    else if b = 0x72 then .ok ('\r', rest)
    else if b = 0x74 then .ok ('\t', rest)
    else if b = 0x75 then unicodeEscape rest
    else fail .invalidEscape rest

/-- The bytes of a string up to its closing quote, each with the bytes left after it. Every step
reads a byte, so `fuel` as large as the text suffices. -/
def body : Nat → Reader (List (UInt8 × Bytes))
  | 0, _ => fail .endInString []
  | _ + 1, [] => fail .endInString []
  | fuel + 1, b :: rest =>
    if b = 0x22 then .ok ([], rest)
    else if b = 0x5C then do
      let (c, rest) ← escape rest
      let (units, left) ← body fuel rest
      return ((String.utf8EncodeChar c).map (·, rest) ++ units, left)
    else if b < 0x20 then fail .controlCharacter rest
    else do
      let (units, left) ← body fuel rest
      return ((b, rest) :: units, left)

/-- The text of bytes that were read. -/
def decodeUnits (units : List (UInt8 × Bytes)) : Except Fault String :=
  match Utf8.decode (units.map Prod.fst) with
  | .ok chars => .ok (String.ofList chars)
  | .error offset => fail .illFormedText ((units[offset]?.map Prod.snd).getD [])

/-- A string after its opening quote. -/
def string : Reader String := fun bytes => do
  let (units, left) ← body bytes.length bytes
  let text ← decodeUnits units
  return (text, left)

end DocSearch.Json.StringReader
