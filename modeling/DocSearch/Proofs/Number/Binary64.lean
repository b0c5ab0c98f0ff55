import DocSearch.Json.Value

/-!
# Integers as binary64 numbers

An integer of 64 bits is far from both ends of the finite numbers: its binary64 number is finite
and has its sign, and it is a zero for the integer zero only. The two zeros differ in a sign that
no comparison sees; `unsigned` leaves it out.
-/
namespace DocSearch

/-- The number itself, or the zero without a sign for either zero. -/
def Finite64.unsigned (x : Finite64) : Finite64 := if x.isZero then .zero false else x

theorem roundHalfEven_le (num den : Nat) : roundHalfEven num den ≤ num / den + 1 := by
  dsimp only [roundHalfEven]
  split
  · omega
  · split <;> omega

namespace Binary64

def unsigned : Binary64 → Binary64
  | .finite x => .finite x.unsigned
  | x => x

theorem lastPlace_one {n : Nat} (positive : n ≠ 0) :
    lastPlace n 1 = (n.log2 : Int) - 52 := by
  have reaches : Nat.pow 2 n.log2 ≤ n := Nat.log2_self_le positive
  have one : Nat.log2 1 = 0 := by decide
  have up : ((n.log2 : Int) - (0 : Nat)).toNat = n.log2 := by omega
  have down : (-((n.log2 : Int) - (0 : Nat))).toNat = 0 := by omega
  simp only [lastPlace, one, powerUp, powerDown]
  rw [up, down, if_pos (by simpa using reaches)]
  omega

/-- Scaled so that its last place is 1, a number has at most 53 binary digits. -/
theorem scaled_lt (n : Nat) :
    n * powerDown ((n.log2 : Int) - 52) / powerUp ((n.log2 : Int) - 52) < 0x20000000000000 := by
  have below : n < 2 ^ (n.log2 + 1) := Nat.lt_log2_self
  have aligned : n.log2 + 1 + (-((n.log2 : Int) - 52)).toNat
      = 53 + ((n.log2 : Int) - 52).toNat := by omega
  have positive : 0 < powerUp ((n.log2 : Int) - 52) := Nat.two_pow_pos _
  rw [Nat.div_lt_iff_lt_mul positive]
  calc
    n * powerDown ((n.log2 : Int) - 52)
      < 2 ^ (n.log2 + 1) * 2 ^ (-((n.log2 : Int) - 52)).toNat :=
        Nat.mul_lt_mul_of_pos_right below (Nat.two_pow_pos _)
    _ = 2 ^ 53 * 2 ^ ((n.log2 : Int) - 52).toNat := by
        rw [← Nat.pow_add, ← Nat.pow_add, aligned]

/-- The exponent field of a positive integer is that of a normal number, and inside the finite
range for one of 64 bits. -/
theorem nearest_one {n : Nat} (negative : Bool) (positive : n ≠ 0) :
    ∃ code, nearest negative n 1 = ofFields negative code ∧
      1022 ≤ code / fractionCount ∧
      (n < 0x10000000000000000 → code / fractionCount < 2047) := by
  have scaled := scaled_lt n
  have rounded := roundHalfEven_le (n * powerDown ((n.log2 : Int) - 52))
    (powerUp ((n.log2 : Int) - 52))
  have exponent : ((n.log2 : Int) - 52 + 1074).toNat = n.log2 + 1022 := by omega
  have same : nearest negative n 1 = ofFields negative ((n.log2 + 1022) * fractionCount
      + roundHalfEven (n * powerDown ((n.log2 : Int) - 52)) (powerUp ((n.log2 : Int) - 52))) := by
    simp only [nearest, if_neg positive, lastPlace_one positive, exponent, Nat.one_mul]
  refine ⟨_, same, ?_, ?_⟩
  · simp only [fractionCount]
    omega
  · intro bounded
    have digits : n.log2 < 64 := (Nat.log2_lt positive).mpr bounded
    simp only [fractionCount]
    omega

/-- Only the integer zero becomes a zero. -/
theorem ofInt_isZero_iff (n : Int) : (ofInt n).isZero = true ↔ n = 0 := by
  by_cases nonzero : n = 0
  · subst nonzero
    exact ⟨fun _ => rfl, fun _ => rfl⟩
  · obtain ⟨code, same, normal, -⟩ :=
      nearest_one (decide (n < 0)) (Int.natAbs_ne_zero.mpr nonzero)
    refine ⟨fun zero => ?_, fun zero => absurd zero nonzero⟩
    rw [ofInt, same, ofFields] at zero
    split at zero
    · have exponent : code / fractionCount = 0 := by
        simp only [isZero, Finite64.isZero, Bool.and_eq_true, beq_iff_eq] at zero
        exact zero.1
      omega
    · cases zero

/-- An integer of 64 bits becomes a finite number of its sign. -/
theorem exists_ofInt {n : Int} (word : Json.IsWord n) :
    ∃ x : Finite64, ofInt n = .finite x ∧ x.negative = decide (n < 0) := by
  by_cases nonzero : n = 0
  · subst nonzero
    exact ⟨.zero false, rfl, rfl⟩
  · obtain ⟨code, same, -, finite⟩ :=
      nearest_one (decide (n < 0)) (Int.natAbs_ne_zero.mpr nonzero)
    have inside : code / fractionCount < 2047 := finite (by have := word.1; have := word.2; omega)
    rw [ofInt, same, ofFields, dif_pos inside]
    exact ⟨_, rfl, rfl⟩

theorem ofInt_isNonnegative_iff {n : Int} (word : Json.IsWord n) :
    (ofInt n).isNonnegative = true ↔ 0 ≤ n := by
  obtain ⟨x, same, sign⟩ := exists_ofInt word
  have zero := ofInt_isZero_iff n
  rw [same, isZero] at zero
  rw [same, isNonnegative, Finite64.isNonnegative, sign, Bool.or_eq_true, zero, Bool.not_eq_true',
    decide_eq_false_iff_not]
  omega

end Binary64
end DocSearch
