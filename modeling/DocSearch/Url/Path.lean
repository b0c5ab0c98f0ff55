import DocSearch.Text.Percent
import DocSearch.Url.Basic

/-!
# Paths

Reading a path resolves its dot segments, also those written with an escape, and escapes what a
path may not contain. A segment that names a drive is never taken back by a dot segment; in the
path of a file it is written with a colon, and empty segments in front are dropped.
-/
namespace DocSearch.UrlPath

/-- What is escaped in a path. -/
def isEscaped : Char → Bool :=
  Percent.controlsAnd [' ', '"', '#', '<', '>', '?', '`', '\x7b', '\x7d']

/-- A dot as it may be written in a dot segment. -/
def dotSpellings : List (List Char) := [['.'], ['%', '2', 'e'], ['%', '2', 'E']]

/-- A segment that stands for the place itself. -/
def isHere (segment : List Char) : Bool := dotSpellings.contains segment

/-- A segment that stands for the place above. -/
def isAbove (segment : List Char) : Bool :=
  (dotSpellings.flatMap fun first => dotSpellings.map (first ++ ·)).contains segment

/-- A letter and a colon or bar. -/
def isDrive : List Char → Bool
  | [letter, mark] => letter.isAlpha && (mark == ':' || mark == '|')
  | _ => false

/-- A drive with a colon. -/
def colonDrive : List Char → List Char
  | [letter, '|'] => [letter, ':']
  | segment => segment

/-- Takes the last segment back, given last to first. -/
def shorten : List (List Char) → List (List Char)
  | [] => []
  | segment :: before => if isDrive segment then segment :: before else before

/-- Adds a segment to those before it, given last to first. A dot segment at the end leaves an
empty segment behind. -/
def push (isFile : Bool) (isLast : Bool) (before : List (List Char)) (segment : List Char) :
    List (List Char) :=
  let closed := fun (parts : List (List Char)) => if isLast then [] :: parts else parts
  if isAbove segment then closed (shorten before)
  else if isHere segment then closed before
  else if isFile && before.isEmpty && isDrive segment then colonDrive segment :: before
  else segment :: before

/-- Resolves segments behind those before, given last to first. -/
def resolve (isFile : Bool) (before : List (List Char)) : List (List Char) → List (List Char)
  | [] => before.reverse
  | [segment] => (push isFile true before segment).reverse
  | segment :: rest => resolve isFile (push isFile false before segment) rest

/-- Drops empty segments in front, but not the last one. -/
def dropEmptyFront : List (List Char) → List (List Char)
  | [] :: segment :: rest => dropEmptyFront (segment :: rest)
  | parts => parts

/-- Splits at every slash, and for special schemes at every backslash too. -/
def split (special : Bool) (text : List Char) : List (List Char) :=
  text.splitOnP fun c => c == '/' || special && c == '\\'

/-- The segments of a path behind its first slash. -/
def ofText (special : Bool) (isFile : Bool) (text : List Char) : List (List Char) :=
  resolve isFile [] ((split special text).map (Percent.encode isEscaped))

end DocSearch.UrlPath
