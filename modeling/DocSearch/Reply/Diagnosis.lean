import DocSearch.Reply.Hits

/-!
# Failures that a reply reports

A reply reports a failure by an `error` member that is not null, and a search also by shards that
failed. The text is the backend's own where it can be found. Every failure carries the reply it
was read from.
-/
namespace DocSearch.Reply

/-- A failure on the side of the backend. -/
inductive BackendFault where
  /-- An `error` member with this value. -/
  | reported (error : Json)
  /-- So many of so many shards gave no answer. -/
  | shardsFailed (failed : UInt64) (total : UInt64)
  deriving DecidableEq, Repr

/-- What is wrong with the shape of a reply. -/
inductive ShapeFault where
  | noHits
  | malformedHits (fault : HitsFault)
  deriving DecidableEq, Repr

/-- Why a reply is no success. -/
inductive Failure where
  | unexpected (fault : ShapeFault) (reply : Json)
  | backend (fault : BackendFault) (reply : Json)
  | notAcknowledged (reply : Json)
  deriving DecidableEq, Repr

/-- The text of an error that does not give one. -/
def unknownReason : String := "unknown backend error"

namespace BackendFault

/-- The text of an `error` member: a string says it itself; an object by its `reason`, or by its
`type` if it has no `reason`, provided that is a string; any other value is quoted. -/
def errorReason : Json → String
  | .string reason => reason
  | .object members =>
    ((((Json.Members.find? "reason" members).or (Json.Members.find? "type" members)).bind
      Json.toString?)).getD unknownReason
  | v => v.compact

def reason : BackendFault → String
  | .reported error => errorReason error
  | .shardsFailed failed total =>
    toString failed.toNat ++ " of " ++ toString total.toNat ++ " shards failed"

end BackendFault

def ShapeFault.message : ShapeFault → String
  | .noHits => "reply has no `hits` member"
  | .malformedHits fault => "malformed `hits` member: " ++ fault.message

namespace Failure

/-- The reply the failure was read from. -/
def reply : Failure → Json
  | .unexpected _ reply => reply
  | .backend _ reply => reply
  | .notAcknowledged reply => reply

def message : Failure → String
  | .unexpected fault _ => "Unexpected reply: " ++ fault.message
  | .backend fault _ => "Backend error: " ++ fault.reason
  | .notAcknowledged _ => "Write was not acknowledged by the backend"

end Failure

/-- The `error` member of a reply, unless it is null. -/
def error? (reply : Json) : Option Json :=
  (reply.member? "error").filter fun e => !e.isNull

/-- A member of a member, as an unsigned integer. -/
def count? (outer inner : String) (reply : Json) : Option UInt64 :=
  ((reply.member? outer).bind (Json.member? inner)).bind Json.toUInt64?

/-- Refuses a reply with an error. -/
def checkError (reply : Json) : Except Failure Unit :=
  match error? reply with
  | some e => .error (.backend (.reported e) reply)
  | none => .ok ()

/-- Refuses a reply with an error, or with hits from a part of the shards only. -/
def checkComplete (reply : Json) : Except Failure Unit := do
  checkError reply
  let failed := (count? "_shards" "failed" reply).getD 0
  if 0 < failed then
    .error (.backend
      (.shardsFailed failed ((count? "_shards" "total" reply).getD failed)) reply)

end DocSearch.Reply
