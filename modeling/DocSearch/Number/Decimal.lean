import DocSearch.Number.Binary64

/-!
# From a decimal to a binary64 number

A decimal `significand · 10 ^ exponent` is read in two roundings: the significand is rounded to
a number, which is then multiplied or divided once by the number nearest to a power of ten. Below
10 ^ -308 it is first divided by 10 ^ 308, as often as needed. The result may differ from the
nearest number in its last place; a value beyond the largest number is refused.
-/
namespace DocSearch.Decimal

/-- The largest power of ten below the end of the finite numbers. -/
def greatestPower : Nat := 308

/-- The number nearest to `10 ^ k`; finite up to `greatestPower`. -/
def powerOfTen (k : Nat) : Finite64 :=
  ((Binary64.ofNat (Nat.pow 10 k)).finite?).getD default

/-- `x · 10 ^ exponent`, or nothing if that is beyond the largest number. -/
def scaleByTen? (x : Finite64) (exponent : Int) : Option Finite64 :=
  if exponent.natAbs ≤ greatestPower then
    if 0 ≤ exponent then (x.mul (powerOfTen exponent.natAbs)).finite?
    else (x.div (powerOfTen exponent.natAbs)).finite?
  else if x.isZero then some x
  else if 0 ≤ exponent then none
  else
    match (x.div (powerOfTen greatestPower)).finite? with
    | none => none
    | some y => scaleByTen? y (exponent + greatestPower)
termination_by exponent.natAbs
decreasing_by unfold greatestPower at *; omega

/-- The number read from `± significand · 10 ^ exponent`. -/
def toFinite64? (negative : Bool) (significand : Nat) (exponent : Int) : Option Finite64 := do
  let x ← (Binary64.ofNat significand).finite?
  let y ← scaleByTen? x exponent
  return if negative then y.neg else y

end DocSearch.Decimal
