import DocSearch.Text.CharRange

/-!
# White space

The property White_Space of the Unicode standard, and text without it at its ends.
-/
namespace DocSearch.Blank

/-- Characters with the property White_Space. -/
def ranges : CharRanges :=
  [(0x9, 0xD), (0x20, 0x20), (0x85, 0x85), (0xA0, 0xA0), (0x1680, 0x1680), (0x2000, 0x200A),
    (0x2028, 0x2029), (0x202F, 0x202F), (0x205F, 0x205F), (0x3000, 0x3000)]

def isBlank (c : Char) : Bool := ranges.contains c

/-- The text without white space at either end. -/
def trim (text : List Char) : List Char :=
  ((text.dropWhile isBlank).reverse.dropWhile isBlank).reverse

end DocSearch.Blank
