import DocSearch.Backend.Locator
import DocSearch.Http.Settings
import DocSearch.Text.Numeral

/-!
# Configuration

Where the backend is and which document type is searched. A configuration can be read from named
variables: the type has to be given, an empty port means none, an empty prefix is no prefix.
-/
namespace DocSearch

structure SearchConfig where
  protocol : String := "http"
  host : String := "localhost"
  port : Option UInt16 := some 9200
  indexPrefix : Option String := none
  docType : String
  http : Http.Settings := {}
  deriving DecidableEq, Repr

/-- Why variables give no configuration. -/
inductive ConfigFault where
  | typeNotSet
  | invalidPort (text : String)
  deriving DecidableEq, Repr

def ConfigFault.message : ConfigFault → String
  | .typeNotSet => "QUARRY_TYPE not set"
  | .invalidPort text => "Invalid QUARRY_PORT: " ++ text

namespace SearchConfig

def locator (c : SearchConfig) : Locator :=
  { protocol := c.protocol, host := c.host, port := c.port, indexPrefix := c.indexPrefix
    docType := c.docType }

/-- Reads a port: empty for none, or a numeral of 16 bits. -/
def readPort (text : String) : Except ConfigFault (Option UInt16) :=
  if text.isEmpty then .ok none
  else
    match Numeral.atMost? 65535 text.toList with
    | some n => .ok (some (UInt16.ofNat n))
    | none => .error (.invalidPort text)

/-- The configuration that variables give. -/
def ofLookup (lookup : String → Option String) : Except ConfigFault SearchConfig :=
  match (lookup "QUARRY_TYPE").filter (!·.isEmpty) with
  | none => .error .typeNotSet
  | some docType => do
    let defaults : SearchConfig := { docType }
    let port ← match lookup "QUARRY_PORT" with
      | some text => readPort text
      | none => .ok defaults.port
    return { defaults with
      protocol := (lookup "QUARRY_PROTOCOL").getD defaults.protocol
      host := (lookup "QUARRY_HOST").getD defaults.host
      port
      indexPrefix := (lookup "QUARRY_PREFIX").filter (!·.isEmpty) }

end SearchConfig
end DocSearch
