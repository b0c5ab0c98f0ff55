import DocSearch.Url.Ipv4
import DocSearch.Url.Ipv6

/-!
# Absolute URLs

A URL by its parts, each in the form in which it is written, and the text put together from them.
Two URLs with the same parts are the same URL.
-/
namespace DocSearch

/-- A host. The empty domain is the host of a URL that names none. -/
inductive Host where
  | domain (name : List Char)
  | ipv4 (address : UInt32)
  | ipv6 (pieces : List UInt16)
  deriving DecidableEq, Repr

namespace Host

def absent : Host := .domain []

def isAbsent (h : Host) : Bool := h == absent

def text : Host → List Char
  | .domain name => name
  | .ipv4 address => Ipv4.text address
  | .ipv6 pieces => Ipv6.text pieces

end Host

/-- Who is asked: credentials, host and port. A default port is left out. -/
structure Authority where
  username : List Char := []
  password : List Char := []
  host : Host
  port : Option UInt16 := none
  deriving DecidableEq, Repr

namespace Authority

def hasCredentials (a : Authority) : Bool := !a.username.isEmpty || !a.password.isEmpty

def credentialsText (a : Authority) : List Char :=
  if a.hasCredentials then
    a.username ++ (if a.password.isEmpty then [] else ':' :: a.password) ++ ['@']
  else []

def portText (a : Authority) : List Char :=
  match a.port with
  | some port => ':' :: Nat.toDigits 10 port.toNat
  | none => []

def text (a : Authority) : List Char := a.credentialsText ++ a.host.text ++ a.portText

end Authority

/-- A path: segments, each behind a slash, or a text without structure. -/
inductive UrlPath where
  | segments (segments : List (List Char))
  | opaqueText (text : List Char)
  deriving DecidableEq, Repr

def UrlPath.text : UrlPath → List Char
  | .segments parts => parts.flatMap ('/' :: ·)
  | .opaqueText whole => whole

/-- An absolute URL. -/
structure Url where
  scheme : List Char
  authority : Option Authority := none
  path : UrlPath
  query : Option (List Char) := none
  fragment : Option (List Char) := none
  deriving DecidableEq, Repr

namespace Url

/-- What stands between the scheme and the path. Without an authority, a path that begins with
two slashes is kept apart by a dot segment. -/
def beforePath (u : Url) : List Char :=
  match u.authority, u.path with
  | some a, _ => ['/', '/'] ++ a.text
  | none, .segments ([] :: _ :: _) => ['/', '.']
  | none, _ => []

/-- A part behind its mark, if it is there. -/
def marked (mark : Char) : Option (List Char) → List Char
  | some part => mark :: part
  | none => []

def text (u : Url) : List Char :=
  u.scheme ++ ':' :: u.beforePath ++ u.path.text ++ marked '?' u.query ++ marked '#' u.fragment

/-- The text as a string. -/
def href (u : Url) : String := String.ofList u.text

end Url
end DocSearch
