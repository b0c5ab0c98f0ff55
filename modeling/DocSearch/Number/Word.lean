/-!
# Words that do not wrap

Differences and products of 64 bits that stop at the end of the range which they would leave.
-/
namespace DocSearch.Word

/-- The greatest number of 64 bits. -/
def greatest : UInt64 := 0xFFFFFFFFFFFFFFFF

/-- The difference, or zero if it would be less. -/
def minus (a b : UInt64) : UInt64 := .ofNat (a.toNat - b.toNat)

/-- The product, or the greatest number if it would be more. -/
def times (a b : UInt64) : UInt64 :=
  if a.toNat * b.toNat < UInt64.size then a * b else greatest

theorem toNat_minus (a b : UInt64) : (minus a b).toNat = a.toNat - b.toNat :=
  UInt64.toNat_ofNat_of_lt' (Nat.lt_of_le_of_lt (Nat.sub_le _ _) a.toNat_lt_size)

theorem toNat_times (a b : UInt64) :
    (times a b).toNat = min (a.toNat * b.toNat) (UInt64.size - 1) := by
  have range : greatest.toNat = UInt64.size - 1 := rfl
  unfold times
  split
  next fits =>
    have exact : (a * b).toNat = a.toNat * b.toNat := by
      rw [UInt64.toNat_mul]
      exact Nat.mod_eq_of_lt fits
    omega
  next beyond => omega

end DocSearch.Word
