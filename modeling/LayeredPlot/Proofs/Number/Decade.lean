import LayeredPlot.Proofs.Number.Exact

/-!
# Decades

The decade of a positive rational is read off the decimal digits of a whole number
next to it.  It is the least exponent whose power of ten is not below the rational.
-/

namespace LayeredPlot
namespace Exact

theorem decimalOrder_lt_iff {n k : Nat} (hk : 0 < k) : decimalOrder n < k ↔ n < 10 ^ k := by
  have hdigits := Nat.length_toDigits_pos (b := 10) (n := n)
  rw [← Nat.length_toDigits_le_iff (by norm_num) hk]
  unfold decimalOrder
  omega

theorem ceil_eq (q : Rat) : q.ceil = ⌈q⌉ := by
  rw [Rat.ceil_eq_neg_floor_neg]
  rfl

theorem ratDecade_le_iff_of_one_lt {q : Rat} (hq : 1 < q) (z : Int) :
    ratDecade q ≤ z ↔ q ≤ (10 : Rat) ^ z := by
  have hceil : 1 < ⌈q⌉ := Int.lt_ceil.mpr (by exact_mod_cast hq)
  unfold ratDecade
  rw [if_pos hq, ceil_eq]
  rcases Int.le_total z 0 with hz | hz
  · -- Powers of ten up to one are below the rational.
    have hpow : (10 : Rat) ^ z ≤ 1 := zpow_le_one_of_nonpos₀ (by norm_num) hz
    constructor
    · intro h
      have hnonneg := Int.natCast_nonneg (decimalOrder (⌈q⌉ - 1).toNat)
      change ((decimalOrder (⌈q⌉ - 1).toNat + 1 : Nat) : Int) ≤ z at h
      omega
    · intro h
      exact absurd (h.trans hpow) (not_le.mpr hq)
  · rcases Int.eq_ofNat_of_zero_le hz with ⟨k, rfl⟩
    rw [zpow_natCast]
    rcases Nat.eq_zero_or_pos k with rfl | hk
    · constructor
      · intro h
        change ((decimalOrder (⌈q⌉ - 1).toNat + 1 : Nat) : Int) ≤ ((0 : Nat) : Int) at h
        omega
      · intro h
        exact absurd h (not_le.mpr (by simpa using hq))
    · calc
        Int.ofNat (decimalOrder (⌈q⌉ - 1).toNat + 1) ≤ (k : Int)
          ↔ decimalOrder (⌈q⌉ - 1).toNat < k := Int.ofNat_le
        _ ↔ (⌈q⌉ - 1).toNat < 10 ^ k := decimalOrder_lt_iff hk
        _ ↔ ⌈q⌉ ≤ ((10 ^ k : Nat) : Int) := by
              rw [Int.toNat_lt (by omega)]
              omega
        _ ↔ q ≤ (10 : Rat) ^ k := by
              rw [Int.ceil_le]
              push_cast
              exact Iff.rfl

theorem ratDecade_le_iff_of_le_one {q : Rat} (hpos : 0 < q) (hq : q ≤ 1) (z : Int) :
    ratDecade q ≤ z ↔ q ≤ (10 : Rat) ^ z := by
  have hinv : 0 ≤ ⌊1 / q⌋ := Int.floor_nonneg.mpr (by positivity)
  unfold ratDecade
  rw [if_neg (not_lt.mpr hq)]
  change -(decimalOrder ⌊1 / q⌋.toNat : Int) ≤ z ↔ _
  rcases Int.le_total 0 z with hz | hz
  · have hpow : 1 ≤ (10 : Rat) ^ z := one_le_zpow₀ (by norm_num) hz
    exact iff_of_true (by omega) (hq.trans hpow)
  · rcases Int.eq_ofNat_of_zero_le (Int.neg_nonneg.mpr hz) with ⟨k, hk⟩
    obtain rfl : z = -(k : Int) := by omega
    rcases Nat.eq_zero_or_pos k with rfl | hk
    · exact iff_of_true (by omega) (by simpa using hq)
    · calc
        -(decimalOrder ⌊1 / q⌋.toNat : Int) ≤ -(k : Int)
          ↔ ¬ decimalOrder ⌊1 / q⌋.toNat < k := by omega
        _ ↔ 10 ^ k ≤ ⌊1 / q⌋.toNat := by rw [decimalOrder_lt_iff hk, not_lt]
        _ ↔ (((10 ^ k : Nat) : Int) : Rat) ≤ 1 / q := by
              rw [Int.le_toNat hinv, Int.le_floor]
        _ ↔ q ≤ 1 / (((10 ^ k : Nat) : Int) : Rat) :=
              le_one_div (by positivity) hpos
        _ ↔ q ≤ (10 : Rat) ^ (-(k : Int)) := by
              rw [zpow_neg, zpow_natCast, one_div]
              push_cast
              exact Iff.rfl

theorem ratDecade_le_iff {q : Rat} (hq : 0 < q) (z : Int) :
    ratDecade q ≤ z ↔ q ≤ (10 : Rat) ^ z := by
  rcases lt_or_ge 1 q with hone | hone
  · exact ratDecade_le_iff_of_one_lt hone z
  · exact ratDecade_le_iff_of_le_one hq hone z

end Exact
end LayeredPlot
