import DocSearch.Proofs.Http.AttemptCount
import DocSearch.Proofs.Json.RoundTrip

/-!
# What a response is taken for

A response settles its call, whatever its status. Its body is taken if it is the text of a JSON
object, and what is taken is the object as it was written; any other body fails the call, with the
response in the error, and is not asked for again.
-/
namespace DocSearch.Http

open Json

theorem readReply_of_spread {members : Members} (plain : (Json.object members).IsPlain 127)
    {response : Response} (spread : Spread (Json.object members).tokens response.body) :
    readReply response = .ok (.object members) := by
  have read : Json.read response.body = .ok (.object members) :=
    (mapError_eq_ok_iff _ _ _).mpr (readText_of_spread plain spread)
  rw [readReply, read]

theorem readReply_eq_ok (response : Response) (reply : Json)
    (read : readReply response = .ok reply) : ∃ members, reply = .object members := by
  unfold readReply at read
  split at read
  · cases read
    exact ⟨_, rfl⟩
  · cases read
  · cases read

theorem isObjectText_of_readReply {response : Response} {v : Json}
    (taken : readReply response = .ok v) : IsObjectText response.body := by
  unfold readReply at taken
  split at taken
  · next members read => exact isObjectText_of_readText ((mapError_eq_ok_iff _ _ _).mp read)
  · cases taken
  · cases taken

theorem badBody_of_readReply {response : Response} {error : Error}
    (refused : readReply response = .error error) :
    ∃ fault, error = .badBody response fault := by
  rw [readReply] at refused
  split at refused <;> cases refused <;> exact ⟨_, rfl⟩

/-- What a response may come to, by its body and not by its status. -/
structure Response.ComesTo (response : Response) (result : Except Error Json) : Prop where
  /-- The compact text of an object without doubles and repeated keys, with at most 127 brackets
  open at a time and any blanks between its tokens, is taken as that object, with all members where
  they were. -/
  plain : ∀ members : Members, (Json.object members).IsPlain 127 →
    Spread (Json.object members).tokens response.body → result = .ok (.object members)
  /-- What is taken is an object, and the body is the text of one. -/
  taken : ∀ v, result = .ok v → (∃ members, v = .object members) ∧ IsObjectText response.body
  /-- What is not taken fails the call for good. The error has the response, and the body word for
  word if it is UTF-8. -/
  reported : ∀ error, result = .error error →
    (∃ fault, error = .badBody response fault) ∧ error.isTransient = false ∧
      error.attempts? = none ∧
      ∀ text, response.body = Utf8.encode text → error.rawBody? = some text

theorem Response.comesTo_readReply (response : Response) :
    response.ComesTo (readReply response) where
  plain members plain spread := readReply_of_spread plain spread
  taken v taken := ⟨readReply_eq_ok response v taken, isObjectText_of_readReply taken⟩
  reported error refused := by
    obtain ⟨fault, rfl⟩ := badBody_of_readReply refused
    refine ⟨⟨fault, rfl⟩, rfl, rfl, fun text body => ?_⟩
    rw [Error.rawBody?, body, Utf8.encode, Utf8.decodeLossy_encodeChars, String.ofList_toList]

namespace Course

/-- No attempt is made after one that is answered. -/
theorem retries_of_answered {w : Course} {policy : RetryPolicy} {request : Request} {c : Call}
    (reached : w.Reaches policy request c) {n : Nat} {response : Response}
    (answered : w.outcome n = .response response) (made : n < c.sends.length) :
    w.retries policy = n := by
  have bound := reached.sends_length_le
  have latest : w.retries policy ≤ n := Nat.find_min' _ (.inl (by rw [answered]; rfl))
  omega

/-- A response settles the call that gets it, whatever its status and whatever happens around the
call: nothing is sent after it. If the call is looked at until the attempt is over before its token
is fired, if it ever is, then the response is taken or reported. So it is in any call that comes to
a result, but for a call whose token was fired and that is cancelled. -/
theorem response_taken_or_reported (w : Course) (policy : RetryPolicy) (request : Request)
    (looks : List Bool) (events : List Event) (n : Nat) (response : Response)
    (answered : w.outcome n = .response response)
    (made : n < (w.run (w.execute policy request looks) events).sends.length) :
    let call := w.run (w.execute policy request looks) events
    call.sends = List.replicate (n + 1) request ∧
    (2 * n + 1 ≤ looks.count true →
      ∃ result, call.result? = some result ∧ response.ComesTo result) ∧
    ∀ result, call.result? = some result → response.ComesTo result ∨
      call.isFired = true ∧ ∃ attempts, result = .error (.cancelled attempts) := by
  intro call
  have reached : w.Reaches policy request call :=
    Reaches.run (.onCourse (w.carries_execute policy request looks)) events
  have last := retries_of_answered reached answered made
  have concluded (attempts : UInt32) :
      conclusion request attempts (w.outcome (w.retries policy)) = readReply response := by
    rw [last, answered, conclusion]
  refine ⟨?_, fun waited => ?_, fun result ended => ?_⟩
  · have sent := reached.sends_prefix
    rw [last] at sent
    exact sent.eq_of_length_le (by rw [List.length_replicate]; exact made)
  · have finished := (w.execute_finished_iff policy request looks).mpr (last ▸ waited)
    obtain ⟨result, ended⟩ := Option.isSome_iff_exists.mp finished
    refine ⟨result, w.result?_run ended events, ?_⟩
    rw [w.execute_eq_conclusion policy request looks result ended, concluded]
    exact response.comesTo_readReply
  · cases reached with
    | onCourse carried =>
      rw [carried.result.1, concluded] at ended
      split at ended
      · cases ended
        exact .inl response.comesTo_readReply
      · cases ended
    | cancelled stage fired sent =>
      rw [Call.result?, stage] at ended
      exact .inr ⟨fired, _, (Option.some.inj ended).symm⟩

/-- A list of an integer and a text, under a key of two bytes. -/
def accented : Members :=
  [("é", .array [.number (.integer (-1) ⟨by decide, by decide⟩), .string "\n\"", .null])]

/-- A first attempt that times out, and a second one that is answered by an error of the server,
with the members of `accented` on lines of their own. -/
def answeredOnLines : Course where
  outcome n :=
    if n = 0 then .failure ⟨.timeout, "no answer"⟩
    else .response ⟨503, (Json.object accented).tokens.flatMap fun token =>
      [0x0A, 0x20] ++ Utf8.encodeChars token⟩
  draw _ := 70

/-- The answer is taken, and there is no third attempt. A token fired after that comes too late. -/
theorem accented_taken :
    let call := answeredOnLines.run (answeredOnLines.execute {} startPage [true, true, true])
      [.fire, .look true false]
    1 < call.sends.length ∧ call.sends = [startPage, startPage] ∧
      call.result? = some (.ok (.object accented)) := by
  intro call
  have made : 1 < call.sends.length := by decide +kernel
  obtain ⟨sends, finished, -⟩ := answeredOnLines.response_taken_or_reported {} startPage
    [true, true, true] [.fire, .look true false] 1 _ rfl made
  obtain ⟨result, ended, response⟩ := finished (by decide)
  have plain : (Json.object accented).IsPlain 127 := by
    refine .object (by decide) ?_
    rw [accented, List.forall_mem_singleton]
    refine .array ?_
    simp only [List.forall_mem_cons]
    exact ⟨.integer _ _, .string _, .null, List.forall_mem_nil _⟩
  have blanks : Grammar.Blanks [0x0A, 0x20] [] := .more (by decide) (.more (by decide) .none)
  have object := response.plain accented plain (spread_flatMap blanks _)
  exact ⟨made, sends, ended.trans (congrArg some object)⟩

end Course
end DocSearch.Http
