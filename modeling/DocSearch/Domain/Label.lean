import DocSearch.Domain.MappingTable
import DocSearch.Domain.Punycode
import DocSearch.Domain.ScriptTable
import DocSearch.Text.Normal.Form

/-!
# Labels of domain names

A label has a form in the characters of its script and a form in ASCII. The first has to be in
normal form, holds only characters that are kept, does not start with a mark, and has joiners only
where they change how letters are written.
-/
namespace DocSearch.Domain

/-- What becomes of a character: nothing if it is refused. -/
def mapChar? (c : Char) : Option (List Char) :=
  match replaced.image? c with
  | some image => some image
  | none => if refusedRanges.contains c then none else some [c]

def isMark (c : Char) : Bool := nonspacingRanges.contains c || spacingRanges.contains c

/-- Whether letters join across a character. -/
def isTransparent (c : Char) : Bool :=
  nonspacingRanges.contains c || alsoTransparentRanges.contains c

/-- The sign that takes the vowel from a consonant. -/
def isVirama (c : Char) : Bool := Normal.combiningClass c == 9

/-- Whether a joiner may stand between what is before it, last to first, and what is after it. The
non-joiner may also part two letters that would join. -/
def mayJoin (before : List Char) (joiner : Char) (after : List Char) : Bool :=
  before.head?.any isVirama ||
    joiner == '\u200C'
      && (before.dropWhile isTransparent).head?.any joinsAfterRanges.contains
      && (after.dropWhile isTransparent).head?.any joinsBeforeRanges.contains

/-- The joiner and the non-joiner. -/
def isJoiner (c : Char) : Bool := c == '\u200D' || c == '\u200C'

/-- Whether all joiners of a text may stand where they do, behind `before`, last to first. -/
def joinersAreFit (before : List Char) : List Char → Bool
  | [] => true
  | c :: rest => (!isJoiner c || mayJoin before c rest) && joinersAreFit (c :: before) rest

/-- Whether a text may be the form of a label in its script. -/
def isFitLabel (text : List Char) : Bool :=
  text.all (fun c => mapChar? c == some [c])
    && !text.head?.any isMark && joinersAreFit [] text

/-- The mark of a label that is encoded. -/
def encodedMark : List Char := ['x', 'n', '-', '-']

/-- A label of a domain name. -/
structure Label where
  script : List Char
  ascii : List Char
  deriving DecidableEq, Repr

/-- Reads a label whose characters have been mapped. One with the mark of an encoded label has to
be the ASCII form of a label that needs it. -/
def Label.ofChars? (text : List Char) : Option Label :=
  if encodedMark.isPrefixOf text then do
    let script ← Punycode.decode? (text.drop encodedMark.length)
    if text.all Punycode.isAscii && !script.all Punycode.isAscii
        && Normal.form script == script && isFitLabel script then
      return { script, ascii := text }
    else none
  else if text.all Punycode.isAscii then some { script := text, ascii := text }
  else if isFitLabel text then
    some { script := text, ascii := encodedMark ++ Punycode.encode text }
  else none

end DocSearch.Domain
