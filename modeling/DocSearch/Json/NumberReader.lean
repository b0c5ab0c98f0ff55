import DocSearch.Json.ReadError
import DocSearch.Json.Value
import DocSearch.Number.Decimal

/-!
# Reading JSON numbers

An integer token within 64 bits stays an integer. Anything else is a double: a fraction, an
exponent, a larger integer, or the token `-0`. Digits beyond those of a 64-bit significand are
dropped; the ones before the point still count for the exponent.
-/
namespace DocSearch.Json

/-- A reader: a value and the bytes after it, or a fault. -/
abbrev Reader (α : Type) := Bytes → Except Fault (α × Bytes)

/-- A fault found after the offending byte was read. -/
def fail {α : Type} (cause : ReadError.Cause) (left : Bytes) : Except Fault α :=
  .error ⟨cause, left⟩

namespace NumberReader

def digit? (b : UInt8) : Option Nat :=
  if 0x30 ≤ b ∧ b ≤ 0x39 then some (b.toNat - 0x30) else none

def startsWithDigit : Bytes → Bool
  | [] => false
  | b :: _ => (digit? b).isSome

/-- Appends decimal digits to `n` while the result stays at most `limit`. Also gives the number
of digits taken. -/
def appendDigits (limit : Nat) (n : Nat) : Bytes → Nat × Nat × Bytes
  | [] => (n, 0, [])
  | b :: rest =>
    match digit? b with
    | none => (n, 0, b :: rest)
    | some d =>
      if 10 * n + d ≤ limit then
        let (total, count, left) := appendDigits limit (10 * n + d) rest
        (total, count + 1, left)
      else (n, 0, b :: rest)

/-- Passes over digits, and counts them. -/
def skipDigits : Bytes → Nat × Bytes
  | [] => (0, [])
  | b :: rest =>
    if (digit? b).isSome then
      let (count, left) := skipDigits rest
      (count + 1, left)
    else (0, b :: rest)

def greatestSignificand : Nat := UInt64.size - 1

def greatestExponent : Nat := 0x7FFFFFFF

/-- The double of a token that has been read. -/
def double (negative : Bool) (significand : Nat) (exponent : Int) : Reader Number :=
  fun left =>
    match Decimal.toFinite64? negative significand exponent with
    | some x => .ok (.double x, left)
    | none => fail .numberOutOfRange left

/-- The digits of an exponent part. An exponent too large to hold makes the number zero, or puts
it out of range. -/
def exponentDigits (negative : Bool) (significand : Nat) (start : Int) (down : Bool) :
    Reader Number
  | [] => fail .endInValue []
  | b :: rest =>
    match digit? b with
    | none => fail .invalidNumber rest
    | some d =>
      let (e, _, left) := appendDigits greatestExponent d rest
      if startsWithDigit left then
        if significand ≠ 0 ∧ down = false then fail .numberOutOfRange left.tail
        else .ok (.double (.zero negative), (skipDigits left).2)
      else double negative significand (if down then start - e else start + e) left

/-- An exponent part, after its letter. -/
def exponentPart (negative : Bool) (significand : Nat) (start : Int) : Reader Number
  | 0x2B :: rest => exponentDigits negative significand start false rest
  | 0x2D :: rest => exponentDigits negative significand start true rest
  | bytes => exponentDigits negative significand start false bytes

/-- What may follow the digits of a double: an exponent part or nothing. -/
def afterDigits (negative : Bool) (significand : Nat) (exponent : Int) : Reader Number
  | 0x65 :: rest => exponentPart negative significand exponent rest
  | 0x45 :: rest => exponentPart negative significand exponent rest
  | bytes => double negative significand exponent bytes

/-- The digits after the point; there must be one. -/
def fraction (negative : Bool) (significand : Nat) (exponent : Int) : Reader Number
  | [] => fail .endInValue []
  | b :: rest =>
    if (digit? b).isNone then fail .invalidNumber rest
    else
      let (total, count, left) := appendDigits greatestSignificand significand (b :: rest)
      afterDigits negative total (exponent - count) (skipDigits left).2

/-- What follows an integer part that did not fit a significand. -/
def longInteger (negative : Bool) (significand : Nat) : Reader Number := fun bytes =>
  let (count, left) := skipDigits bytes
  match left with
  | 0x2E :: rest => fraction negative significand count rest
  | left => afterDigits negative significand count left

/-- The number of an integer token: zero with a sign is a double, as is one below the least
integer of 64 bits. -/
def integer (negative : Bool) (n : Nat) : Reader Number := fun left =>
  if negative then
    if n = 0 then .ok (.double (.zero true), left)
    else
      match Number.ofInt? (-n) with
      | some token => .ok (token, left)
      | none => double true n 0 left
  else
    match Number.ofInt? n with
    | some token => .ok (token, left)
    | none => double false n 0 left

/-- What follows the integer part of a number. -/
def afterInteger (negative : Bool) (n : Nat) : Reader Number
  | 0x2E :: rest => fraction negative n 0 rest
  | 0x65 :: rest => exponentPart negative n 0 rest
  | 0x45 :: rest => exponentPart negative n 0 rest
  | bytes => integer negative n bytes

/-- A number after its sign. No digit may follow a leading zero. -/
def unsigned (negative : Bool) : Reader Number
  | [] => fail .endInValue []
  | b :: rest =>
    match digit? b with
    | none => fail .invalidNumber rest
    | some 0 =>
      if startsWithDigit rest then fail .invalidNumber rest.tail
      else afterInteger negative 0 rest
    | some d =>
      let (n, _, left) := appendDigits greatestSignificand d rest
      if startsWithDigit left then longInteger negative n left
      else afterInteger negative n left

end NumberReader
end DocSearch.Json
