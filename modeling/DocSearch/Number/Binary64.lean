/-!
# Binary64 numbers

The finite numbers of the 64-bit binary format are ± m · 2^q with a 53-bit m. They are held by
their three fields, and every operation is exact rational arithmetic followed by one rounding to
the nearest number, a tie going to the even significand. Nothing here computes with hardware
floats, so every result can be reasoned about.
-/
namespace DocSearch

/-- The number of fractions in a binade, 2^52. -/
abbrev fractionCount : Nat := 0x10000000000000

/-- A finite binary64 number: sign, biased exponent, trailing fraction. -/
structure Finite64 where
  negative : Bool
  exponent : Fin 2047
  fraction : Fin fractionCount
  deriving DecidableEq, Repr

/-- A binary64 number. Not-a-number has one form only. -/
inductive Binary64 where
  | nan
  | infinite (negative : Bool)
  | finite (value : Finite64)
  deriving DecidableEq, Repr

namespace Finite64

def zero (negative : Bool) : Finite64 := ⟨negative, 0, 0⟩

instance : Inhabited Finite64 := ⟨zero false⟩

/-- The integer m of ± m · 2^q, with the implicit leading bit of a normal number. -/
def significand (x : Finite64) : Nat :=
  if x.exponent.val = 0 then x.fraction.val else fractionCount + x.fraction.val

/-- The exponent q of ± m · 2^q. -/
def scale (x : Finite64) : Int :=
  (max x.exponent.val 1 : Nat) - 1075

/-- Either zero. -/
def isZero (x : Finite64) : Bool :=
  x.exponent.val == 0 && x.fraction.val == 0

/-- Zero or more, for either zero. -/
def isNonnegative (x : Finite64) : Bool :=
  !x.negative || x.isZero

def neg (x : Finite64) : Finite64 :=
  { x with negative := !x.negative }

end Finite64

/-- The nearest integer to `num / den`, a tie going to the even one. -/
def roundHalfEven (num den : Nat) : Nat :=
  let quotient := num / den
  let twice := 2 * (num % den)
  if twice < den then quotient
  else if den < twice then quotient + 1
  else quotient + quotient % 2

/-- The part of `2 ^ e` that multiplies a numerator. -/
def powerUp (e : Int) : Nat := Nat.pow 2 e.toNat

/-- The part of `2 ^ e` that multiplies a denominator. -/
def powerDown (e : Int) : Nat := Nat.pow 2 (-e).toNat

namespace Binary64

/-- The number whose exponent and fraction fields stand side by side in `code`; beyond the last
finite one it is infinite. -/
def ofFields (negative : Bool) (code : Nat) : Binary64 :=
  if h : code / fractionCount < 2047 then
    .finite {
      negative
      exponent := ⟨code / fractionCount, h⟩
      fraction := ⟨code % fractionCount, Nat.mod_lt _ (by decide)⟩ }
  else .infinite negative

/-- The exponent of the last place of numbers as large as `num / den`. -/
def lastPlace (num den : Nat) : Int :=
  let e : Int := (num.log2 : Int) - den.log2
  let binade := if den * powerUp e ≤ num * powerDown e then e else e - 1
  max (binade - 52) (-1074)

/-- The number nearest to `± num / den`, for a positive `den`. A carry out of the significand
runs into the exponent field, which is where it belongs. -/
def nearest (negative : Bool) (num den : Nat) : Binary64 :=
  if num = 0 then .finite (.zero negative)
  else
    let q := lastPlace num den
    ofFields negative
      ((q + 1074).toNat * fractionCount + roundHalfEven (num * powerDown q) (den * powerUp q))

def ofNat (n : Nat) : Binary64 := nearest false n 1

def ofInt (n : Int) : Binary64 := nearest (n < 0) n.natAbs 1

def finite? : Binary64 → Option Finite64
  | .finite x => some x
  | _ => none

def isFinite (x : Binary64) : Bool := x.finite?.isSome

/-- Equal to zero, which either zero is. -/
def isZero : Binary64 → Bool
  | .finite x => x.isZero
  | _ => false

/-- At least zero; not-a-number is not. -/
def isNonnegative : Binary64 → Bool
  | .nan => false
  | .infinite negative => !negative
  | .finite x => x.isNonnegative

end Binary64

namespace Finite64

def mul (x y : Finite64) : Binary64 :=
  let q := x.scale + y.scale
  .nearest (x.negative ^^ y.negative) (x.significand * y.significand * powerUp q) (powerDown q)

/-- The quotient by a `y` that is not zero. -/
def div (x y : Finite64) : Binary64 :=
  let q := x.scale - y.scale
  .nearest (x.negative ^^ y.negative) (x.significand * powerUp q) (y.significand * powerDown q)

end Finite64
end DocSearch
