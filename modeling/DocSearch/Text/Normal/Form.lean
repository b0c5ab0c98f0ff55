import DocSearch.Text.Normal.Table

/-!
# Composed normal form

Characters are taken apart, the marks behind each starter are put in the order of their classes,
and what can be is composed again. Texts that differ only in how their characters are composed
have one normal form. Characters that decompose and are never composed are not taken apart: a text
is expected to hold none.
-/
namespace DocSearch.Normal

/-- The class of a combining character, and zero for a starter. -/
def combiningClass (c : Char) : Nat :=
  match classRuns.find? fun (first, last, _) => first ≤ c.toNat && c.toNat ≤ last with
  | some (_, _, value) => value
  | none => 0

/-! ## Hangul

A syllable is a lead, a vowel and perhaps a tail, and stands where these three number it. -/

def firstSyllable : Nat := 0xAC00
def syllableCount : Nat := 11172
def firstLead : Nat := 0x1100
def firstVowel : Nat := 0x1161
/-- One before the first tail, so that it stands for a syllable without one. -/
def noTail : Nat := 0x11A7

def isSyllable (n : Nat) : Bool := firstSyllable ≤ n && n < firstSyllable + syllableCount

/-- The parts of a syllable. -/
def syllableParts (n : Nat) : List Nat :=
  let index := n - firstSyllable
  let tail := index % 28
  [firstLead + index / 588, firstVowel + index % 588 / 28]
    ++ if tail = 0 then [] else [noTail + tail]

/-- A lead with a vowel, or a syllable without a tail with one. -/
def syllable? (a b : Nat) : Option Nat :=
  if firstLead ≤ a ∧ a < firstLead + 19 ∧ firstVowel ≤ b ∧ b < firstVowel + 21 then
    some (firstSyllable + ((a - firstLead) * 21 + (b - firstVowel)) * 28)
  else if isSyllable a ∧ (a - firstSyllable) % 28 = 0 ∧ noTail < b ∧ b < noTail + 28 then
    some (a + (b - noTail))
  else none

/-! ## Taking apart -/

/-- The parts of a character. -/
def parts (c : Char) : List Char :=
  if isSyllable c.toNat then (syllableParts c.toNat).map Char.ofNat
  else (composites.image? c).getD [c]

/-- Puts a character behind a text, given last to first. A mark goes in front of the marks of
greater class. -/
def settle (c : Char) : List Char → List Char
  | [] => [c]
  | d :: before =>
    if 0 < combiningClass c ∧ combiningClass c < combiningClass d then d :: settle c before
    else c :: d :: before

/-- The parts of a text in their order. -/
def decompose (text : List Char) : List Char :=
  ((text.flatMap parts).foldl (fun before c => settle c before) []).reverse

/-! ## Composing -/

/-- The character that two others are composed to: the one whose parts are theirs. -/
def composite? (a b : Char) : Option Char :=
  match syllable? a.toNat b.toNat with
  | some n => some (Char.ofNat n)
  | none =>
    let image := (parts a ++ [b]).map Char.toNat
    (composites.find? (·.image == image)).map fun r => Char.ofNat r.first

/-- Composes a starter with what follows it. Between them stand `marks`, last to first, that could
not be composed; they hold off all that is not of a greater class than the last of them. -/
def composeFrom (starter : Char) (marks : List Char) : List Char → List Char
  | [] => starter :: marks.reverse
  | c :: rest =>
    let isFree := marks.head?.all fun m => combiningClass m < combiningClass c
    match if isFree then composite? starter c else none with
    | some whole => composeFrom whole marks rest
    | none =>
      if combiningClass c = 0 then starter :: marks.reverse ++ composeFrom c [] rest
      else composeFrom starter (c :: marks) rest

/-- Composes a text. Marks in front of the first starter stay. -/
def compose : List Char → List Char
  | [] => []
  | c :: rest => if combiningClass c = 0 then composeFrom c [] rest else c :: compose rest

/-- The composed normal form of a text. -/
def form (text : List Char) : List Char := compose (decompose text)

end DocSearch.Normal
