/-!
# Punycode

A label as ASCII: its ASCII characters, and behind a hyphen the others in ascending order, each as
the distance to the one before it. Distances are numbers of variable length whose digits have
thresholds that adapt to the numbers written so far.
-/
namespace DocSearch.Punycode

def isAscii (c : Char) : Bool := c.toNat < 0x80

/-- A digit of base 36: letters, then numerals. -/
def digit (n : Nat) : Char :=
  if n < 26 then Char.ofNat ('a'.toNat + n) else Char.ofNat ('0'.toNat + (n - 26))

/-- The value of a digit in either case. -/
def value? (c : Char) : Option Nat :=
  if 'a' ≤ c ∧ c ≤ 'z' then some (c.toNat - 'a'.toNat)
  else if 'A' ≤ c ∧ c ≤ 'Z' then some (c.toNat - 'A'.toNat)
  else if '0' ≤ c ∧ c ≤ '9' then some (c.toNat - '0'.toNat + 26)
  else none

/-- The least digit that does not end a number, at a place that counts from 36 in steps of 36. -/
def threshold (bias place : Nat) : Nat :=
  if place ≤ bias then 1 else if bias + 26 ≤ place then 26 else place - bias

theorem threshold_pos (bias place : Nat) : 0 < threshold bias place := by
  unfold threshold
  split
  · omega
  · split <;> omega

/-- The bias of a distance that has been scaled down, `steps` divisions into it. -/
def biasOf (distance steps : Nat) : Nat :=
  if 455 < distance then biasOf (distance / 35) (steps + 36)
  else steps + 36 * distance / (distance + 38)
termination_by distance

/-- The bias after a distance, `count` characters being placed. The first distance counts less. -/
def adapt (distance count : Nat) (isFirst : Bool) : Nat :=
  let scaled := if isFirst then distance / 700 else distance / 2
  biasOf (scaled + scaled / count) 0

/-! ## Writing -/

/-- The digits of a distance from a place on. -/
def distanceDigits (bias place n : Nat) : List Char :=
  let least := threshold bias place
  if n < least then [digit n]
  else
    digit (least + (n - least) % (36 - least))
      :: distanceDigits bias (place + 36) ((n - least) / (36 - least))
termination_by n
decreasing_by
  have positive := threshold_pos bias place
  exact Nat.lt_of_le_of_lt (Nat.div_le_self _ _) (by omega)

/-- What has been written, and the distance since. -/
structure Writer where
  written : List Char := []
  distance : Nat := 0
  bias : Nat := 72
  placed : Nat
  isFirst : Bool := true
  deriving DecidableEq, Repr

/-- Passes a character of the label while `code` is placed. -/
def Writer.pass (code : Nat) (w : Writer) (c : Char) : Writer :=
  if c.toNat < code then { w with distance := w.distance + 1 }
  else if c.toNat = code then
    { written := w.written ++ distanceDigits w.bias 36 w.distance
      distance := 0
      bias := adapt w.distance (w.placed + 1) w.isFirst
      placed := w.placed + 1
      isFirst := false }
  else w

/-- Places the codes of a list in the label, from the code after the last one on. -/
def placeCodes (label : List Char) (next : Nat) (w : Writer) : List Nat → Writer
  | [] => w
  | code :: rest =>
    let near := { w with distance := w.distance + (code - next) * (w.placed + 1) }
    let passed := label.foldl (Writer.pass code) near
    placeCodes label (code + 1) { passed with distance := passed.distance + 1 } rest

/-- Inserts a code in an ascending list that does not hold it yet. -/
def insertCode (code : Nat) : List Nat → List Nat
  | [] => [code]
  | n :: rest =>
    if code < n then code :: n :: rest
    else if code = n then n :: rest
    else n :: insertCode code rest

/-- The label in ASCII. -/
def encode (label : List Char) : List Char :=
  let ascii := label.filter isAscii
  let codes := ((label.filter (!isAscii ·)).map Char.toNat).foldr insertCode []
  let written := (placeCodes label 0x80 { placed := ascii.length } codes).written
  if ascii.isEmpty then written else ascii ++ '-' :: written

/-! ## Reading -/

/-- What has been read: the label so far, the code and the index of the last character placed, and
the part of the next distance. -/
structure Reader where
  label : List Char
  code : Nat := 0x80
  index : Nat := 0
  bias : Nat := 72
  distance : Nat := 0
  weight : Nat := 1
  place : Nat := 36
  deriving DecidableEq, Repr

/-- Places the character a distance away. -/
def Reader.put? (r : Reader) (distance : Nat) : Option Reader :=
  let count := r.label.length + 1
  let target := r.index + distance
  let code := r.code + target / count
  if code.isValidChar then
    some {
      label := r.label.insertIdx (target % count) (Char.ofNat code)
      code
      index := target % count + 1
      bias := adapt distance count (r.index == 0) }
  else none

/-- Takes one digit, of whose number it may be the last. -/
def Reader.take? (r : Reader) (c : Char) : Option Reader := do
  let n ← value? c
  let least := threshold r.bias r.place
  let distance := r.distance + n * r.weight
  if n < least then r.put? distance
  else return { r with distance, weight := r.weight * (36 - least), place := r.place + 36 }

/-- The label of a text, whose ASCII characters end at the last hyphen that is not the first
character. -/
def decode? (text : List Char) : Option (List Char) := do
  let digits := (text.reverse.takeWhile (· != '-')).reverse
  let front := text.take (text.length - digits.length - 1)
  let r ← (if front.isEmpty then text else digits).foldlM Reader.take? { label := front }
  if r.place = 36 then return r.label else none

end DocSearch.Punycode
