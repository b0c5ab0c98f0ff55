import DocSearch.Text.Percent

/-!
# Maps of code points

A map is written as text, one word for each run of code points. `41-5A>61` sends a run to the code
points from 61 on, `100/12E>101` sends every second one of a run, `BD>31.2044.32` sends one code
point to several, and a word with nothing behind the arrow drops its run. Code points that stand in
no run are not in the map.
-/
namespace DocSearch

/-- A run of code points and the image of its first one. Along the run the head of the image moves
and the rest stays. -/
structure CodeRun where
  first : Nat
  last : Nat
  step : Nat
  image : List Nat
  deriving DecidableEq, Repr

abbrev CodeMap := List CodeRun

namespace CodeRun

/-- Whether the run holds a code point. -/
def holds (r : CodeRun) (n : Nat) : Bool :=
  r.first ≤ n && n ≤ r.last && (n - r.first) % r.step == 0

/-- The image of a code point of the run. -/
def imageOf (r : CodeRun) (n : Nat) : List Nat :=
  match r.image with
  | [] => []
  | target :: more => (target + (n - r.first)) :: more

/-- The value of hexadecimal digits. -/
def hexNumber (digits : List Char) : Nat :=
  digits.foldl (fun n c => 16 * n + (Percent.hexValue? c).getD 0) 0

/-- The code points of an image, which dots separate. -/
def readImage (text : List Char) : List Nat :=
  if text.isEmpty then [] else (text.splitOn '.').map hexNumber

/-- Reads one word of a map. -/
def ofWord (word : List Char) : CodeRun :=
  let source := word.takeWhile (· != '>')
  let image := readImage (word.drop (source.length + 1))
  let digits := source.takeWhile fun c => c != '-' && c != '/'
  let first := hexNumber digits
  match source.drop digits.length with
  | '/' :: last => { first, last := hexNumber last, step := 2, image }
  | '-' :: last => { first, last := hexNumber last, step := 1, image }
  | _ => { first, last := first, step := 1, image }

end CodeRun

namespace CodeMap

/-- Reads a map, whose words are separated by spaces and line breaks. -/
def ofText (text : String) : CodeMap :=
  ((text.toList.splitOnP fun c => c == ' ' || c == '\n').filter (!·.isEmpty)).map CodeRun.ofWord

/-- The image of a character, if it is in the map. -/
def image? (map : CodeMap) (c : Char) : Option (List Char) :=
  (map.find? (·.holds c.toNat)).map fun r => (r.imageOf c.toNat).map Char.ofNat

end CodeMap
end DocSearch
