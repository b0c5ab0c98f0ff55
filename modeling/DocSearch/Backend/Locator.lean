import DocSearch.Text.Percent

/-!
# Addresses of a document type

The texts that address an index, a type in it, a document and the search endpoint. They are put
together without a check; only a document's id is escaped, so that it stays one path segment.
-/
namespace DocSearch

/-- Where a document type lives. -/
structure Locator where
  protocol : String
  host : String
  port : Option UInt16
  indexPrefix : Option String
  docType : String
  deriving DecidableEq, Repr

namespace Locator

/-- The protocol and the host, with the port if there is one. -/
def domainUri (l : Locator) : String :=
  match l.port with
  | some port => l.protocol ++ "://" ++ l.host ++ ":" ++ toString port.toNat
  | none => l.protocol ++ "://" ++ l.host

/-- The type, behind the prefix if there is one. -/
def indexName (l : Locator) : String :=
  match l.indexPrefix with
  | some label => label ++ "-" ++ l.docType
  | none => l.docType

def indexUri (l : Locator) : String := l.domainUri ++ "/" ++ l.indexName

def typeUri (l : Locator) : String := l.indexUri ++ "/" ++ l.docType

/-- The id of a document as a path segment. -/
def segment (id : String) : String :=
  String.ofList (Percent.encode Percent.isSegmentDelimiter id.toList)

def documentUri (l : Locator) (id : String) : String := l.typeUri ++ "/" ++ segment id

def searchUri (l : Locator) : String := l.indexUri ++ "/_search"

end Locator
end DocSearch
