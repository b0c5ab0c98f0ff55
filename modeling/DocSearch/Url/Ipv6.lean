import DocSearch.Text.Percent

/-!
# IPv6 addresses in hosts

Eight pieces of sixteen bits. In writing, a run of zero pieces may be left out once, and the last
two pieces may be written as an IPv4 address. An address is shown with its first longest run of
at least two zero pieces left out.
-/
namespace DocSearch.Ipv6

/-- Pieces read so far, in order, and before which of them pieces were left out. -/
structure Partial where
  pieces : List UInt16 := []
  gap : Option Nat := none
  deriving DecidableEq, Repr

/-- All eight pieces, the gap filled with zeros. -/
def Partial.close? (p : Partial) : Option (List UInt16) :=
  match p.gap with
  | some k =>
    some (p.pieces.take k ++ List.replicate (8 - p.pieces.length) 0 ++ p.pieces.drop k)
  | none => if p.pieces.length = 8 then some p.pieces else none

/-- The hexadecimal digits at the front, at most `limit` of them: their value, and the rest. -/
def hexPiece : Nat → Nat → List Char → Nat × List Char
  | 0, n, text => (n, text)
  | _ + 1, n, [] => (n, [])
  | limit + 1, n, c :: rest =>
    match Percent.hexValue? c with
    | some d => hexPiece limit (n * 16 + d) rest
    | none => (n, c :: rest)

/-- A byte in decimal, without leading zeros. -/
def decimalByte? (text : List Char) : Option Nat :=
  if text.isEmpty || !text.all Char.isDigit then none
  else if text.head? = some '0' ∧ 1 < text.length then none
  else
    let n := text.foldl (fun n c => n * 10 + (c.toNat - '0'.toNat)) 0
    if n ≤ 255 then some n else none

/-- The two pieces of a dotted address. -/
def dottedPieces? (text : List Char) : Option (List UInt16) := do
  match ← (text.splitOn '.').mapM decimalByte? with
  | [a, b, c, d] => some [UInt16.ofNat (a * 256 + b), UInt16.ofNat (c * 256 + d)]
  | _ => none

/-- Reads pieces from a place where one may start. Every step reads a character, so `fuel` as
large as the text suffices. -/
def readPieces : Nat → Partial → List Char → Option Partial
  | _, p, [] => some p
  | 0, _, _ :: _ => none
  | fuel + 1, p, c :: rest =>
    if 8 ≤ p.pieces.length then none
    else if c = ':' then
      if p.gap.isSome then none
      else readPieces fuel { pieces := p.pieces ++ [0], gap := some (p.pieces.length + 1) } rest
    else
      let (value, left) := hexPiece 4 0 (c :: rest)
      let longer : Partial := { p with pieces := p.pieces ++ [UInt16.ofNat value] }
      match left with
      | [] => some longer
      | '.' :: _ =>
        if left.length = rest.length + 1 ∨ 6 < p.pieces.length then none
        else (dottedPieces? (c :: rest)).map fun two => { p with pieces := p.pieces ++ two }
      | ':' :: more => if more.isEmpty then none else readPieces fuel longer more
      | _ => none

/-- The pieces of an address. -/
def parse? (text : List Char) : Option (List UInt16) :=
  match text with
  | ':' :: ':' :: rest => do
    (← readPieces rest.length { pieces := [0], gap := some 1 } rest).close?
  | ':' :: _ => none
  | _ => do (← readPieces text.length {} text).close?

/-- The length of the run of zero pieces at the front. -/
def zeroRun (pieces : List UInt16) : Nat := (pieces.takeWhile (· == 0)).length

/-- The first longest run of zero pieces, by start and length. -/
def longestZeroRun (pieces : List UInt16) : Nat × Nat :=
  (List.range pieces.length).foldl (fun best i =>
    let n := zeroRun (pieces.drop i)
    if best.2 < n then (i, n) else best) (0, 0)

/-- Pieces between colons. -/
def piecesText (pieces : List UInt16) : List Char :=
  List.intercalate [':'] (pieces.map fun p => Nat.toDigits 16 p.toNat)

/-- The address between brackets. -/
def text (pieces : List UInt16) : List Char :=
  let (start, length) := longestZeroRun pieces
  let body :=
    if length < 2 then piecesText pieces
    else piecesText (pieces.take start) ++ [':', ':'] ++ piecesText (pieces.drop (start + length))
  '[' :: body ++ [']']

end DocSearch.Ipv6
