import DocSearch.Reply.Diagnosis

/-!
# Replies to writes

A write is acknowledged by a flag, by as many successful shards as there are, or by a result that
names what was done. A deletion says besides whether the document was there; that it was not wins
over every acknowledgement.
-/
namespace DocSearch.Reply

/-- Whether a member is `true`. -/
def flag (key : String) (reply : Json) : Bool :=
  ((reply.member? key).bind Json.toBool?).getD false

/-- Whether a value counts as many successful shards as shards. -/
def allSuccessful (value : Json) : Bool :=
  match (value.member? "total").bind Json.toUInt64?,
    (value.member? "successful").bind Json.toUInt64? with
  | some total, some successful => total == successful
  | _, _ => false

/-- The string under `result`. -/
def result? (reply : Json) : Option String := (reply.member? "result").bind Json.toString?

/-- The results of a write that was carried out. -/
def doneResults : List String := ["created", "updated", "deleted", "noop"]

/-- Whether a reply acknowledges a write. -/
def isAcknowledged (reply : Json) : Bool :=
  (error? reply).isNone
    && (flag "ok" reply || flag "acknowledged" reply
      || allSuccessful reply || (reply.member? "_shards").any allSuccessful
      || (result? reply).any (doneResults.contains ·))

/-- The reply to indexing a document, if it acknowledges the write. -/
def indexed (reply : Json) : Except Failure Json := do
  checkError reply
  if isAcknowledged reply then return reply else .error (.notAcknowledged reply)

/-- Whether a reply says that the document was not there. -/
def saysMissing (reply : Json) : Bool :=
  (reply.member? "found").bind Json.toBool? == some false || result? reply == some "not_found"

/-- Whether the deleted document was there. -/
def deleted (reply : Json) : Except Failure Bool := do
  checkError reply
  if saysMissing reply then return false
  else if flag "found" reply || isAcknowledged reply then return true
  else .error (.notAcknowledged reply)

end DocSearch.Reply
