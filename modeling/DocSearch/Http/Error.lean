import DocSearch.Http.Outcome
import DocSearch.Http.Request
import DocSearch.Json.Reader

/-!
# Errors of a call

A call fails because its last attempt failed on the way, because the body of a response is no JSON
object, or because it was cancelled; before any attempt, because its URL or the client is no good.
-/
namespace DocSearch.Http

/-- Why the body of a response could not be taken. -/
inductive BodyFault where
  | unreadable (error : Json.ReadError)
  | notObject (value : Json)
  deriving DecidableEq, Repr

inductive Error where
  | transport (failure : TransportFailure) (attempts : UInt32) (request : Request)
  | badBody (response : Response) (fault : BodyFault)
  | cancelled (attempts : UInt32)
  | invalidUrl (error : UrlError)
  | unusableSettings
  deriving DecidableEq, Repr

/-- The kind of a value, with its article. -/
def kindName : Json → String
  | .null => "null"
  | .bool _ => "a boolean"
  | .number _ => "a number"
  | .string _ => "a string"
  | .array _ => "an array"
  | .object _ => "an object"

def BodyFault.reason : BodyFault → String
  | .unreadable e => e.message
  | .notObject v => "expected a JSON object, got " ++ kindName v

namespace Error

def message : Error → String
  | .transport failure attempts request =>
    "Transport failure after " ++ toString attempts.toNat ++ " attempt(s) for " ++ request.text
      ++ ": " ++ failure.text
  | .badBody response fault =>
    "Unparsable reply (HTTP " ++ toString response.status ++ "): " ++ fault.reason
  | .cancelled attempts =>
    "Request cancelled after " ++ toString attempts.toNat ++ " attempt(s)"
  | .invalidUrl e => "Invalid URL: " ++ e.message
  | .unusableSettings => "Failed to build HTTP client: builder error"

/-- Whether the last attempt failed in a way that may have gone by. -/
def isTransient : Error → Bool
  | .transport failure _ _ => failure.isTransient
  | _ => false

/-- The attempts made, if it came to any. -/
def attempts? : Error → Option UInt32
  | .transport _ attempts _ => some attempts
  | .cancelled attempts => some attempts
  | _ => none

/-- The body that could not be taken, as text. -/
def rawBody? : Error → Option String
  | .badBody response _ => some (String.ofList (Utf8.decodeLossy response.body))
  | _ => none

end Error

/-- The reply in a response: its body has to be a JSON object, its status does not matter. -/
def readReply (response : Response) : Except Error Json :=
  match Json.read response.body with
  | .ok (.object members) => .ok (.object members)
  | .ok value => .error (.badBody response (.notObject value))
  | .error e => .error (.badBody response (.unreadable e))

end DocSearch.Http
