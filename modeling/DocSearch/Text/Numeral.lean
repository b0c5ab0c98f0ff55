/-!
# Decimal numerals

A numeral is an optional plus sign and at least one ASCII digit. Leading zeros are allowed, and
the number of digits is not limited, only the value.
-/
namespace DocSearch.Numeral

/-- The value of an ASCII digit. -/
def digit? (c : Char) : Option Nat :=
  if '0' ≤ c ∧ c ≤ '9' then some (c.toNat - '0'.toNat) else none

/-- The value of digits behind a number that has been read. -/
def digitsFrom? (n : Nat) : List Char → Option Nat
  | [] => some n
  | c :: rest =>
    match digit? c with
    | some d => digitsFrom? (10 * n + d) rest
    | none => none

/-- The value of one or more digits. -/
def digits? : List Char → Option Nat
  | [] => none
  | text => digitsFrom? 0 text

/-- The value of a numeral. -/
def value? : List Char → Option Nat
  | '+' :: rest => digits? rest
  | text => digits? text

/-- The value of a numeral that is at most `limit`. -/
def atMost? (limit : Nat) (text : List Char) : Option Nat :=
  (value? text).filter (· ≤ limit)

end DocSearch.Numeral
