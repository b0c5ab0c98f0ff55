import DocSearch.Text.Case.Table

/-!
# Lower case

Every character is mapped by itself, but for one: a capital sigma becomes the final sigma if a
cased character stands before it and none behind it, case-ignorable characters being passed over
on both sides.
-/
namespace DocSearch.Case

/-- The lower case of a character on its own. -/
def lowerChar (c : Char) : List Char := (lowerMap.image? c).getD [c]

def isCased (c : Char) : Bool := casedRanges.contains c

def isIgnorable (c : Char) : Bool := ignorableRanges.contains c

/-- Whether the first character that is not ignorable is cased. -/
def meetsCased (text : List Char) : Bool :=
  match text.dropWhile isIgnorable with
  | [] => false
  | c :: _ => isCased c

/-- Lower case of `text` behind the characters `before`, the last of them first. -/
def lowerFrom (before : List Char) : List Char → List Char
  | [] => []
  | c :: rest =>
    let here :=
      if c = 'Σ' then
        if meetsCased before && !meetsCased rest then ['ς'] else ['σ']
      else lowerChar c
    here ++ lowerFrom (c :: before) rest

/-- The lower case of a text. -/
def lowerChars (text : List Char) : List Char := lowerFrom [] text

/-- The lower case of a string. -/
def lower (s : String) : String := String.ofList (lowerChars s.toList)

end DocSearch.Case
