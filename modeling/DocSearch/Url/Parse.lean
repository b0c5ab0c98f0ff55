import DocSearch.Domain.Name
import DocSearch.Url.Error
import DocSearch.Url.Path

/-!
# Reading an absolute URL

The rules of the URL standard, for a text without a base: blanks around it and line breaks in it
are dropped, parts are brought into their written form, and the first part that is wrong decides
the error. Special schemes always have a host and a path, and take a backslash for a slash.
-/
namespace DocSearch.Url

/-- What a scheme means for the rest of the text. -/
inductive SchemeKind where
  /-- A scheme of the web, with its default port. -/
  | special (port : UInt16)
  | file
  | other
  deriving DecidableEq, Repr

namespace SchemeKind

def ofScheme (scheme : List Char) : SchemeKind :=
  match String.ofList scheme with
  | "http" => .special 80
  | "https" => .special 443
  | "ws" => .special 80
  | "wss" => .special 443
  | "ftp" => .special 21
  | "file" => .file
  | _ => .other

def isSpecial (k : SchemeKind) : Bool := k != .other

def defaultPort? : SchemeKind → Option UInt16
  | .special port => some port
  | _ => none

end SchemeKind

/-- Drops controls and spaces at the ends, and tabs and line breaks everywhere. -/
def cleaned (text : List Char) : List Char :=
  let outer := fun (c : Char) => c.toNat ≤ 0x20
  let inner := ((text.dropWhile outer).reverse.dropWhile outer).reverse
  inner.filter fun c => c != '\t' && c != '\n' && c != '\r'

def isSchemeChar (c : Char) : Bool :=
  c.isAlphanum || c == '+' || c == '-' || c == '.'

/-- The scheme in lower case, and what follows its colon. -/
def scheme? (text : List Char) : Option (List Char × List Char) :=
  if text.head?.any Char.isAlpha then
    match text.dropWhile isSchemeChar with
    | ':' :: rest => some ((text.takeWhile isSchemeChar).map Char.toLower, rest)
    | _ => none
  else none

/-- Whether a character ends the authority or a segment of the path. -/
def isSlash (special : Bool) (c : Char) : Bool := c == '/' || special && c == '\\'

def endsAuthority (special : Bool) (c : Char) : Bool :=
  isSlash special c || c == '?' || c == '#'

/-- What is escaped in credentials. -/
def isEscapedInCredentials : Char → Bool :=
  Percent.controlsAnd
    [' ', '"', '#', '<', '>', '?', '`', '\x7b', '\x7d', '/', ':', ';', '=', '@', '[', '\\', ']',
      '^', '|']

/-- What is escaped in a query. -/
def isEscapedInQuery (special : Bool) (c : Char) : Bool :=
  Percent.controlsAnd [' ', '"', '#', '<', '>'] c || special && c == '\''

/-- What is escaped in a fragment. -/
def isEscapedInFragment : Char → Bool :=
  Percent.controlsAnd [' ', '"', '<', '>', '`']

/-- Characters that no host without a special scheme contains. -/
def isForbiddenInHost (c : Char) : Bool :=
  ['\x00', '\t', '\n', '\r', ' ', '#', '/', ':', '<', '>', '?', '@', '[', '\\', ']', '^',
    '|'].contains c

/-- An address between brackets. -/
def bracketed (text : List Char) : Except UrlError Host :=
  match text.getLast? with
  | some ']' =>
    match Ipv6.parse? (text.drop 1).dropLast with
    | some pieces => .ok (.ipv6 pieces)
    | none => .error .invalidIpv6
  | _ => .error .invalidIpv6

/-- The host of a special scheme. -/
def specialHost (text : List Char) : Except UrlError Host :=
  if text.head? = some '[' then bracketed text
  else
    match Domain.toAscii? (Percent.decode text) with
    | none => .error .invalidDomain
    | some [] => .error .emptyHost
    | some name =>
      if Ipv4.endsInNumber name then
        match Ipv4.parse? name with
        | some address => .ok (.ipv4 address)
        | none => .error .invalidIpv4
      else .ok (.domain name)

/-- The host of any other scheme. -/
def opaqueHost (text : List Char) : Except UrlError Host :=
  if text.head? = some '[' then bracketed text
  else if text.any isForbiddenInHost then .error .invalidHostCharacter
  else .ok (.domain (Percent.encode Percent.isControl text))

/-- Splits at the first colon that is not between brackets. -/
def splitPort (inBrackets : Bool) : List Char → List Char × List Char
  | [] => ([], [])
  | c :: rest =>
    if c = ':' ∧ inBrackets = false then ([], c :: rest)
    else
      let inside := if c = '[' then true else if c = ']' then false else inBrackets
      let (host, port) := splitPort inside rest
      (c :: host, port)

/-- The value of the digits of a port behind `n`, and what ends them. -/
def portDigits (n : Nat) : List Char → Except UrlError (Nat × List Char)
  | [] => .ok (n, [])
  | c :: rest =>
    if c.isDigit then
      let longer := n * 10 + (c.toNat - '0'.toNat)
      if 65535 < longer then .error .invalidPort else portDigits longer rest
    else if c = '\\' then .ok (n, c :: rest)
    else .error .invalidPort

/-- The port, left out if it is empty or the default, and what follows it. -/
def readPort (kind : SchemeKind) (text : List Char) :
    Except UrlError (Option UInt16 × List Char) :=
  match text with
  | ':' :: digits => do
    let (n, left) ← portDigits 0 digits
    let port := UInt16.ofNat n
    if left.length = digits.length ∨ kind.defaultPort? = some port then return (none, left)
    else return (some port, left)
  | _ => .ok (none, text)

/-- Splits behind the last at-sign. -/
def splitCredentials (text : List Char) : Option (List Char × List Char) :=
  if text.contains '@' then
    let host := (text.reverse.takeWhile (· != '@')).reverse
    some (text.take (text.length - host.length - 1), host)
  else none

/-- The name and the password of credentials. -/
def readCredentials (text : List Char) : List Char × List Char :=
  let name := text.takeWhile (· != ':')
  let encode := Percent.encode isEscapedInCredentials
  (encode name, encode (text.drop (name.length + 1)))

/-- Reads an authority, which `after` follows. Also gives what it leaves for the path. -/
def readAuthority (kind : SchemeKind) (text : List Char) (after : List Char) :
    Except UrlError (Authority × List Char) := do
  let (login, place) := (splitCredentials text).getD ([], text)
  let (username, password) := readCredentials login
  let hasCredentials := !username.isEmpty || !password.isEmpty
  if text = ['@'] ∧ after ≠ [] then .error .emptyHost
  let (hostText, portText) := splitPort false place
  if kind.isSpecial && hostText.isEmpty then .error .emptyHost
  let host ← if kind.isSpecial then specialHost hostText else opaqueHost hostText
  if host.isAbsent && portText.head? == some ':' then .error .emptyHost
  let (port, left) ← readPort kind portText
  if host.isAbsent && hasCredentials then .error .emptyHost
  return ({ username, password, host, port }, left)

/-- The query and the fragment at the end of a text, escaped. -/
def queryAndFragment (special : Bool) (text : List Char) :
    Option (List Char) × Option (List Char) :=
  let fragment := match text.dropWhile (· != '#') with
    | [] => none
    | _ :: rest => some (Percent.encode isEscapedInFragment rest)
  let query := match text.takeWhile (· != '#') with
    | '?' :: rest => some (Percent.encode (isEscapedInQuery special) rest)
    | _ => none
  (query, fragment)

/-- Splits a text where its query or fragment starts. -/
def splitPath (text : List Char) : List Char × List Char :=
  let ends := fun (c : Char) => c == '?' || c == '#'
  (text.takeWhile (!ends ·), text.dropWhile (!ends ·))

/-- The path behind an authority. A special scheme has one even if none is written. -/
def pathAfterAuthority (special : Bool) (text : List Char) : UrlPath :=
  match text with
  | [] => .segments (if special then [[]] else [])
  | c :: rest =>
    .segments (UrlPath.ofText special false (if isSlash special c then rest else text))

/-- Reads what follows the slashes that announce an authority. -/
def withAuthority (scheme : List Char) (kind : SchemeKind) (text : List Char) :
    Except UrlError Url := do
  let inside := text.takeWhile (!endsAuthority kind.isSpecial ·)
  let after := text.dropWhile (!endsAuthority kind.isSpecial ·)
  let (authority, left) ← readAuthority kind inside after
  let (pathText, ending) := splitPath (left ++ after)
  let (query, fragment) := queryAndFragment kind.isSpecial ending
  return {
    scheme, authority := some authority, query, fragment
    path := pathAfterAuthority kind.isSpecial pathText }

/-- Reads what follows a scheme that is not special. -/
def afterOtherScheme (scheme : List Char) (text : List Char) : Except UrlError Url :=
  match text with
  | '/' :: '/' :: rest => withAuthority scheme .other rest
  | _ =>
    let (pathText, ending) := splitPath text
    let (query, fragment) := queryAndFragment false ending
    let path := match pathText with
      | '/' :: rest => .segments (UrlPath.ofText false false rest)
      | _ => .opaqueText (Percent.encode Percent.isControl pathText)
    .ok { scheme, path, query, fragment }

/-- The host of a file: the local one is not written, and a drive is no host. -/
def fileHost (text : List Char) : Except UrlError Host :=
  if text.isEmpty then .ok .absent
  else do
    let host ← specialHost text
    return if host = .domain ['l', 'o', 'c', 'a', 'l', 'h', 'o', 's', 't'] then .absent else host

/-- Reads what follows the scheme of a file. A path that starts with a drive has no host. -/
def afterFileScheme (scheme : List Char) (text : List Char) : Except UrlError Url := do
  let (host, pathText, ending) ← match text with
    | a :: b :: rest =>
      if isSlash true a && isSlash true b then
        let name := rest.takeWhile (!endsAuthority true ·)
        if UrlPath.isDrive name then
          let (pathText, ending) := splitPath rest
          pure (Host.absent, '/' :: pathText, ending)
        else
          let host ← fileHost name
          let (pathText, ending) := splitPath (rest.dropWhile (!endsAuthority true ·))
          pure (host, pathText, ending)
      else
        let (pathText, ending) := splitPath text
        pure (Host.absent, pathText, ending)
    | _ =>
      let (pathText, ending) := splitPath text
      pure (Host.absent, pathText, ending)
  let relative := match pathText with
    | c :: rest => if isSlash true c then rest else pathText
    | [] => []
  let segments := UrlPath.ofText true true relative
  let host := if segments.head?.any UrlPath.isDrive then Host.absent else host
  let (query, fragment) := queryAndFragment true ending
  let path := .segments (UrlPath.dropEmptyFront segments)
  return { scheme, authority := some { host }, path, query, fragment }

/-- Reads an absolute URL. -/
def parse (text : List Char) : Except UrlError Url :=
  match scheme? (cleaned text) with
  | none => .error .relativeWithoutBase
  | some (scheme, rest) =>
    match SchemeKind.ofScheme scheme with
    | .special port => withAuthority scheme (.special port) (rest.dropWhile (isSlash true))
    | .file => afterFileScheme scheme rest
    | .other => afterOtherScheme scheme rest

/-- The URL without a name and a password. -/
def withoutCredentials (u : Url) : Url :=
  { u with authority := u.authority.map fun a => { a with username := [], password := [] } }

end DocSearch.Url
