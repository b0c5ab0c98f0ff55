import DocSearch.Domain.Direction
import DocSearch.Domain.Label
import DocSearch.Text.Utf8

/-!
# Domain names

The ASCII form of a domain name. Characters are mapped first, which lower-cases them, and labels
are read from what comes out. Characters that delimit the parts of a URL, controls and blanks are
refused.
-/
namespace DocSearch.Domain

/-- Characters that no domain name contains. -/
def isForbidden (c : Char) : Bool :=
  c.toNat ≤ 0x20 || c.toNat == 0x7F
    || ['%', '#', '/', ':', '<', '>', '?', '@', '[', '\\', ']', '^', '|'].contains c

/-- A name with its characters mapped and in normal form. For ASCII that is the lower case. -/
def mapped? (text : List Char) : Option (List Char) :=
  if text.all Punycode.isAscii then some (text.map Char.toLower)
  else (text.mapM mapChar?).map fun images => Normal.form images.flatten

/-- Whether each label has one direction, if something is written from right to left. -/
def directionsAreFit (labels : List Label) : Bool :=
  !labels.any (·.script.any isRightToLeft) || labels.all (hasOneDirection ·.script)

/-- The ASCII form of a name. -/
def toAscii? (bytes : Bytes) : Option (List Char) := do
  let text ← mapped? (← (Utf8.decode bytes).toOption)
  let labels ← (text.splitOn '.').mapM Label.ofChars?
  let name := List.intercalate ['.'] (labels.map (·.ascii))
  if directionsAreFit labels && !name.any isForbidden then return name else none

end DocSearch.Domain
