import DocSearch.Text.Utf8

/-!
# Outcomes of an attempt

One attempt of a request ends with a response, whatever its status, or fails on the way. Failures
that may have gone by the next time are transient.
-/
namespace DocSearch.Http

/-- What a failure on the way was. -/
inductive FailureKind where
  | reset
  | brokenPipe
  | timeout
  | connect
  | other
  deriving DecidableEq, Repr

namespace FailureKind

def isTransient : FailureKind → Bool
  | .reset | .brokenPipe | .timeout => true
  | .connect | .other => false

def text : FailureKind → String
  | .reset => "connection reset"
  | .brokenPipe => "broken pipe"
  | .timeout => "timed out"
  | .connect => "connect failed"
  | .other => "transport error"

end FailureKind

/-- A failure on the way. -/
structure TransportFailure where
  kind : FailureKind
  message : String
  deriving DecidableEq, Repr

namespace TransportFailure

def isTransient (f : TransportFailure) : Bool := f.kind.isTransient

def text (f : TransportFailure) : String := f.kind.text ++ ": " ++ f.message

end TransportFailure

/-- A response as it came from the wire. -/
structure Response where
  status : Nat
  body : Bytes
  deriving DecidableEq, Repr

/-- What one attempt ended with. -/
inductive Outcome where
  | response (response : Response)
  | failure (failure : TransportFailure)
  deriving DecidableEq, Repr

end DocSearch.Http
