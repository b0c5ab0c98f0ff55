import DocSearch.Number.Binary64

/-!
# The shortest decimal of a binary64 number

The fewest decimal digits that read back as the same number, and of those the nearest to it. A
decimal reads back if it lies between the midpoints to the two neighbours; the midpoints
themselves count where the significand is even, because a tie is read as the even number.
-/
namespace DocSearch

/-- A positive decimal `digits · 10 ^ exponent`. -/
structure ShortDecimal where
  digits : Nat
  exponent : Int
  deriving DecidableEq, Repr

namespace Finite64

/-- An interval of rationals around a number: all ends over one denominator. -/
structure ReadBack where
  low : Nat
  value : Nat
  high : Nat
  denominator : Nat
  closed : Bool
  deriving DecidableEq, Repr

/-- The rationals that round to the absolute value of `x`, for an `x` that is not zero. The gap
below a power of two is half as wide as the gap above. -/
def readBack (x : Finite64) : ReadBack :=
  let m := x.significand
  let q := x.scale - 2
  let below := if x.fraction.val = 0 ∧ 1 < x.exponent.val then 1 else 2
  { low := (4 * m - below) * powerUp q
    value := 4 * m * powerUp q
    high := (4 * m + 2) * powerUp q
    denominator := powerDown q
    closed := m % 2 == 0 }

/-- Whether `num / den` reads back, given the interval. -/
def ReadBack.holds (r : ReadBack) (num den : Nat) : Bool :=
  let here := num * r.denominator
  if r.closed then r.low * den ≤ here && here ≤ r.high * den
  else r.low * den < here && here < r.high * den

/-- Of the two neighbours of the value among the multiples of `10 ^ exponent`, the nearest one
that reads back; a tie goes to the even one. -/
def ReadBack.onGrid? (r : ReadBack) (exponent : Int) : Option Nat :=
  let up := Nat.pow 10 exponent.toNat
  let down := Nat.pow 10 (-exponent).toNat
  let num := r.value * down
  let den := r.denominator * up
  let below := num / den
  let nearestFirst :=
    if roundHalfEven num den = below then [below, below + 1] else [below + 1, below]
  nearestFirst.find? fun d => r.holds (d * up) down

/-- The first hit on the grids from `10 ^ exponent` downwards, at most `steps` further ones. -/
def ReadBack.search (r : ReadBack) : Nat → Int → ShortDecimal
  | 0, exponent => ⟨(r.onGrid? exponent).getD 0, exponent⟩
  | steps + 1, exponent =>
    match r.onGrid? exponent with
    | some digits => ⟨digits, exponent⟩
    | none => r.search steps (exponent - 1)

/-- An exponent above that of the leading digit: log₁₀ 2 is a little more than 0.30102. -/
def gridStart (x : Finite64) : Int :=
  let binary : Int := x.significand.log2 + x.scale + 1
  binary * 30103 / 100000 + 1

/-- The shortest decimal of an `x` that is not zero. Seventeen digits always suffice. -/
def shortest (x : Finite64) : ShortDecimal :=
  x.readBack.search 20 x.gridStart

end Finite64

/-- Where plain notation ends: decimal exponents from `least` to `greatest` are written without
an exponent part. -/
structure PlainRange where
  least : Int
  greatest : Int

/-- Doubles are written plainly from 0.00001 up to sixteen places before the point. -/
def plainRange : PlainRange := ⟨-5, 15⟩

/-- The decimal digits of a number, most significant first. -/
def decimalDigits (n : Nat) : List Char := Nat.toDigits 10 n

/-- An integer in decimal. -/
def integerText (n : Int) : List Char :=
  if n < 0 then '-' :: decimalDigits n.natAbs else decimalDigits n.natAbs

/-- A positive decimal in plain notation, with at least one digit on both sides of the point. -/
def ShortDecimal.plain (d : ShortDecimal) : List Char :=
  let digits := decimalDigits d.digits
  if 0 ≤ d.exponent then digits ++ List.replicate d.exponent.toNat '0' ++ ['.', '0']
  else
    let whole : Int := digits.length + d.exponent
    if 0 < whole then digits.take whole.toNat ++ '.' :: digits.drop whole.toNat
    else '0' :: '.' :: List.replicate (-whole).toNat '0' ++ digits

/-- A positive decimal with one digit before the point and a signed exponent. -/
def ShortDecimal.scientific (d : ShortDecimal) : List Char :=
  let digits := decimalDigits d.digits
  let exponent : Int := d.exponent + digits.length - 1
  let sign := if exponent < 0 then [] else ['+']
  let fraction := digits.drop 1
  digits.take 1 ++ (if fraction.isEmpty then [] else '.' :: fraction)
    ++ 'e' :: sign ++ integerText exponent

/-- A positive decimal in the notation its size asks for. -/
def ShortDecimal.text (d : ShortDecimal) : List Char :=
  let leading : Int := d.exponent + (decimalDigits d.digits).length - 1
  if plainRange.least ≤ leading ∧ leading ≤ plainRange.greatest then d.plain else d.scientific

/-- The text of a number: the shortest digits that read back, with the sign also of a zero. -/
def Finite64.text (x : Finite64) : List Char :=
  let magnitude := if x.isZero then ['0', '.', '0'] else x.shortest.text
  if x.negative then '-' :: magnitude else magnitude

end DocSearch
