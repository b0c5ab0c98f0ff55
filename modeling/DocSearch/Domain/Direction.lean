import DocSearch.Domain.ScriptTable

/-!
# Direction of labels

A name in which something is written from right to left has to keep its labels apart on the
screen: each label has one direction, starts and ends with characters that have it, and does not
mix the two kinds of digits where it would be read from right to left.
-/
namespace DocSearch.Domain

/-- How a character takes part in the order on the screen. -/
inductive Direction where
  | left
  | right
  | arabicNumber
  | europeanNumber
  /-- Signs that go with their neighbours. -/
  | neutral
  /-- Marks that go with the character they stand on. -/
  | mark
  deriving DecidableEq, Repr

def Direction.ofChar (c : Char) : Direction :=
  if nonspacingRanges.contains c then .mark
  else if rightRanges.contains c then .right
  else if arabicNumberRanges.contains c then .arabicNumber
  else if europeanNumberRanges.contains c then .europeanNumber
  else if neutralRanges.contains c then .neutral
  else .left

/-- Whether a character is written from right to left. Hebrew comes first of those that are. -/
def isRightToLeft (c : Char) : Bool :=
  0x590 ≤ c.toNat && [Direction.right, .arabicNumber].contains (.ofChar c)

/-- Whether the characters of a label have one direction. -/
def hasOneDirection (label : List Char) : Bool :=
  let all := label.map Direction.ofChar
  let last := (all.reverse.dropWhile (· == .mark)).headD .mark
  match all with
  | [] => true
  | .left :: _ =>
    !all.contains .right && !all.contains .arabicNumber
      && [Direction.left, .europeanNumber].contains last
  | .right :: _ =>
    !all.contains .left && !(all.contains .arabicNumber && all.contains .europeanNumber)
      && [Direction.right, .arabicNumber, .europeanNumber].contains last
  | _ => false

end DocSearch.Domain
