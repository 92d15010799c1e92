import LayeredPlot.Proofs.Number.Double

/-!
# Whole numbers as doubles

A double holds every whole number of at most 53 binary digits.  Such numbers are subtracted without
rounding, as long as the difference is positive.
-/

namespace LayeredPlot
namespace Double

open Float.Model Float.Model.UnpackedFloat

variable {n k : Nat}

/-!
## Mantissas
-/

theorem log2_le_of_lt (h : n < 2 ^ 53) : n.log2 ≤ 52 := by
  by_cases hzero : n = 0
  · rw [hzero]
    decide
  · exact Nat.le_of_lt_succ ((Nat.log2_lt hzero).mpr h)

theorem log2_mul_pow (hpos : 0 < n) (k : Nat) : (n * 2 ^ k).log2 = n.log2 + k := by
  refine (Nat.log2_eq_iff (Nat.mul_pos hpos (Nat.two_pow_pos k)).ne').mpr ⟨?_, ?_⟩
  · rw [Nat.pow_add]
    exact Nat.mul_le_mul_right _ (Nat.log2_self_le hpos.ne')
  · rw [Nat.add_right_comm, Nat.pow_add]
    exact Nat.mul_lt_mul_of_pos_right Nat.lt_log2_self (Nat.two_pow_pos k)

def wholeMantissa (n : Nat) : Nat :=
  n * 2 ^ (52 - n.log2)

theorem wholeMantissa_pos (hpos : 0 < n) : 0 < wholeMantissa n :=
  Nat.mul_pos hpos (Nat.two_pow_pos _)

theorem log2_wholeMantissa (hpos : 0 < n) (h : n < 2 ^ 53) : (wholeMantissa n).log2 = 52 := by
  have hle := log2_le_of_lt h
  rw [wholeMantissa, log2_mul_pow hpos]
  omega

def whole (n : Nat) (hpos : 0 < n) : UnpackedFloat :=
  .finite .positive (wholeMantissa n) (n.log2 - 52) (wholeMantissa_pos hpos)

/-!
## Rounding
-/

theorem shiftRight_exact (m k : Nat) :
    ExtendedMantissa.ofMantissaAndAccuracy (m * 2 ^ k) .exact >>> k
      = ExtendedMantissa.ofMantissaAndAccuracy m .exact := by
  induction k generalizing m with
  | zero =>
      rw [Nat.pow_zero, Nat.mul_one]
      rfl
  | succ k ih =>
      rw [Nat.pow_succ', ← Nat.mul_assoc]
      change ExtendedMantissa.shiftRightOne
        (ExtendedMantissa.ofMantissaAndAccuracy (m * 2 * 2 ^ k) .exact >>> k) = _
      rw [ih]
      simp [ExtendedMantissa.shiftRightOne, ExtendedMantissa.ofMantissaAndAccuracy]

theorem targetExponent_eq (hpos : 0 < n) (k : Nat) :
    Format.binary64.targetExponent (totalExponent (n * 2 ^ k) (-k)) = (n.log2 : Int) - 52 := by
  unfold Format.targetExponent totalExponent
  rw [log2_mul_pow hpos]
  change max ((n.log2 + k : Nat) + 1 + -(k : Int) - 53) (-1074) = (n.log2 : Int) - 52
  omega

theorem shiftToTargetExponent_eq (hpos : 0 < n) (h : n < 2 ^ 53) (hk : 52 - n.log2 ≤ k) :
    shiftToTargetExponent Format.binary64 (n * 2 ^ k) (-k) .exact
      = (ExtendedMantissa.ofMantissaAndAccuracy (wholeMantissa n) .exact, (n.log2 : Int) - 52) := by
  have hle := log2_le_of_lt h
  have hamount : ((n.log2 : Int) - 52 - -(k : Int)).toNat = k - (52 - n.log2) := by omega
  have hdigits : n * 2 ^ k = wholeMantissa n * 2 ^ (k - (52 - n.log2)) := by
    rw [wholeMantissa, Nat.mul_assoc, ← Nat.pow_add, Nat.add_sub_cancel' hk]
  simp only [shiftToTargetExponent, shiftToExponent, targetExponent_eq hpos k, hamount]
  rw [hdigits, shiftRight_exact]
  congr 1
  omega

theorem roundWithAccuracy_eq_whole (hpos : 0 < n) (h : n < 2 ^ 53) (hk : 52 - n.log2 ≤ k) :
    roundWithAccuracy Format.binary64 .positive (n * 2 ^ k) (-k) .exact = whole n hpos := by
  have hle := log2_le_of_lt h
  have hexponent : (n.log2 : Int) - 52 = -((52 - n.log2 : Nat) : Int) := by omega
  have hagain := shiftToTargetExponent_eq hpos h (Nat.le_refl (52 - n.log2))
  rw [← hexponent] at hagain
  have hrounded : (ExtendedMantissa.ofMantissaAndAccuracy (wholeMantissa n) .exact).roundedMantissa
      = wholeMantissa n := rfl
  unfold roundWithAccuracy
  simp only [shiftToTargetExponent_eq hpos h hk, hrounded]
  rw [show n * 2 ^ (52 - n.log2) = wholeMantissa n from rfl] at hagain
  simp only [hagain]
  exact dif_neg (wholeMantissa_pos hpos).ne'

theorem round_eq_whole (hpos : 0 < n) (h : n < 2 ^ 53) (k : Nat) :
    UnpackedFloat.round Format.binary64 .positive (n * 2 ^ k) (-k) = whole n hpos := by
  have hle := log2_le_of_lt h
  have hamount : (-(k : Int) - ((n.log2 : Int) - 52)).toNat = 52 - n.log2 - k := by omega
  have hexponent : -(k : Int) - ((52 - n.log2 - k : Nat) : Int)
      = -((k + (52 - n.log2 - k) : Nat) : Int) := by omega
  simp only [UnpackedFloat.round, decreaseExponent, targetExponent_eq hpos k, hamount, hexponent]
  rw [Nat.shiftLeft_eq, Nat.mul_assoc, ← Nat.pow_add]
  exact roundWithAccuracy_eq_whole hpos h (by omega)

theorem normalize_eq_whole (hpos : 0 < n) (h : n < 2 ^ 53) (k : Nat) (zeroSign : Sign) :
    UnpackedFloat.normalize Format.binary64 ((n * 2 ^ k : Nat) : Int) (-k) zeroSign
      = whole n hpos := by
  have hsign : compare ((n * 2 ^ k : Nat) : Int) 0 = .gt :=
    Int.compare_eq_gt.mpr (Int.natCast_pos.mpr (Nat.mul_pos hpos (Nat.two_pow_pos k)))
  simp only [UnpackedFloat.normalize, hsign, Int.toNat_natCast]
  exact round_eq_whole hpos h k

/-!
## Packing
-/

theorem unpackSign_packComponents (s : Sign) (e : BitVec 11) (m : BitVec 52) :
    unpackSign (packComponents Format.binary64 s e m) = s.toBitVec := by
  change (s.toBitVec ++ e ++ m).extractLsb' 63 1 = s.toBitVec
  rw [BitVec.extractLsb'_append_eq_of_le (by decide),
    BitVec.extractLsb'_append_eq_of_le (by decide)]
  exact BitVec.extractLsb'_eq_self

theorem wholeMantissa_bounds (hpos : 0 < n) (h : n < 2 ^ 53) :
    2 ^ 52 ≤ wholeMantissa n ∧ wholeMantissa n < 2 ^ 53 :=
  (Nat.log2_eq_iff (wholeMantissa_pos hpos).ne').mp (log2_wholeMantissa hpos h)

theorem toNat_implicit_append (hpos : 0 < n) (h : n < 2 ^ 53) :
    (1#1 ++ BitVec.ofNat 52 (wholeMantissa n)).toNat = wholeMantissa n := by
  rcases wholeMantissa_bounds hpos h with ⟨hlow, hhigh⟩
  rw [toNat_one_append, BitVec.toNat_ofNat]
  omega

theorem toNat_storedExponent (h : n < 2 ^ 53) :
    (BitVec.ofNat 11 (n.log2 + 1023)).toNat = n.log2 + 1023 := by
  have hle := log2_le_of_lt h
  rw [BitVec.toNat_ofNat, Nat.mod_eq_of_lt (by omega)]

theorem pack_whole (hpos : 0 < n) (h : n < 2 ^ 53) :
    UnpackedFloat.pack Format.binary64 (whole n hpos)
      = packComponents Format.binary64 .positive (BitVec.ofNat 11 (n.log2 + 1023))
          (BitVec.ofNat 52 (wholeMantissa n)) := by
  have hle := log2_le_of_lt h
  have hstored : ((n.log2 : Int) - 52 + Format.binary64.exponentBias
      + Format.binary64.mantissaBitsWithoutImplicit).toNat = n.log2 + 1023 := by
    change ((n.log2 : Int) - 52 + 1023 + 52).toNat = n.log2 + 1023
    omega
  have hfits : ¬ 2 ^ Format.binary64.exponentBits ≤ n.log2 + 1023 + 1 := by
    change ¬ 2 ^ 11 ≤ n.log2 + 1023 + 1
    omega
  simp only [whole, UnpackedFloat.pack, hstored, if_neg hfits, log2_wholeMantissa hpos h]
  rfl

theorem unpack_pack_whole (hpos : 0 < n) (h : n < 2 ^ 53) :
    UnpackedFloat.unpack Format.binary64 (UnpackedFloat.pack Format.binary64 (whole n hpos))
      = whole n hpos := by
  have hle := log2_le_of_lt h
  have hstored := toNat_storedExponent h
  have hspecial : BitVec.ofNat 11 (n.log2 + 1023) ≠ -1#11 := by
    intro heq
    rw [heq] at hstored
    change 2047 = n.log2 + 1023 at hstored
    omega
  have hsmall : BitVec.ofNat 11 (n.log2 + 1023) ≠ 0#11 := by
    intro heq
    rw [heq] at hstored
    change 0 = n.log2 + 1023 at hstored
    omega
  have hexponent : ((n.log2 + 1023 : Nat) : Int) - (Format.binary64.exponentBias + (52 : Nat))
      = (n.log2 : Int) - 52 := by
    change ((n.log2 + 1023 : Nat) : Int) - (1023 + 52) = (n.log2 : Int) - 52
    omega
  rw [pack_whole hpos h]
  simp only [UnpackedFloat.unpack, unpackMantissa_packComponents, unpackExponent_packComponents,
    unpackSign_packComponents, if_neg hspecial, if_neg hsmall, hstored,
    toNat_implicit_append hpos h, hexponent]
  rfl

theorem unpacked_pack_whole (hpos : 0 < n) (h : n < 2 ^ 53) :
    unpacked (Float.ofModel (pack (whole n hpos))) = whole n hpos :=
  unpack_pack_whole hpos h

/-!
## Differences
-/

theorem sub_whole {m : Nat} (hm : 0 < m) (hlt : m < n) (h : n < 2 ^ 53) :
    UnpackedFloat.sub Format.binary64 (whole n (hm.trans hlt)) (whole m hm)
      = whole (n - m) (Nat.sub_pos_of_lt hlt) := by
  have hle := log2_le_of_lt h
  have hlog : m.log2 ≤ n.log2 :=
    (Nat.le_log2 (hm.trans hlt).ne').mpr ((Nat.log2_self_le hm.ne').trans hlt.le)
  have hmin : min ((n.log2 : Int) - 52) ((m.log2 : Int) - 52) = -((52 - m.log2 : Nat) : Int) := by
    omega
  have hleft : ((n.log2 : Int) - 52 - -((52 - m.log2 : Nat) : Int)).toNat
      = n.log2 - m.log2 := by
    omega
  have hright : ((m.log2 : Int) - 52 - -((52 - m.log2 : Nat) : Int)).toNat = 0 := by omega
  -- Both mantissas are those of the numbers with the zeros that the lesser one needs.
  have hdigits : wholeMantissa n * 2 ^ (n.log2 - m.log2) = n * 2 ^ (52 - m.log2) := by
    rw [wholeMantissa, Nat.mul_assoc, ← Nat.pow_add]
    congr 2
    omega
  have hdifference : ((n * 2 ^ (52 - m.log2) : Nat) : Int) - ((wholeMantissa m : Nat) : Int)
      = (((n - m) * 2 ^ (52 - m.log2) : Nat) : Int) := by
    rw [wholeMantissa, ← Int.ofNat_sub (Nat.mul_le_mul_right _ hlt.le), Nat.sub_mul]
  simp only [whole, UnpackedFloat.sub, decreaseExponent, hmin, hleft, hright, Nat.shiftLeft_eq,
    Nat.pow_zero, Nat.mul_one, hdigits]
  exact (congrArg (fun d => UnpackedFloat.normalize Format.binary64 d _ _) hdifference).trans
    (normalize_eq_whole (Nat.sub_pos_of_lt hlt) (lt_of_le_of_lt (Nat.sub_le n m) h) _ _)

/-!
## Doubles
-/

theorem ofNat_eq_whole (hpos : 0 < n) (h : n < 2 ^ 53) :
    (Scalar.ofNat n : Float) = Float.ofModel (pack (whole n hpos)) := by
  have hword : n.toUInt64.toNat = n := by
    change n % 2 ^ 64 = n
    omega
  change Double.ofInt (Int.ofNat n) = _
  have hnonneg : ¬ Int.ofNat n < 0 := Int.not_lt.mpr (Int.natCast_nonneg n)
  unfold Double.ofInt
  rw [if_neg hnonneg]
  change (if n.toUInt64.toNat = n then n.toUInt64.toFloat else Float.ofNat n) = _
  rw [if_pos hword]
  change Float.ofModel (pack (UnpackedFloat.normalize Format.binary64 n.toUInt64.toNat 0 .positive))
    = _
  rw [hword]
  have hnormalize := normalize_eq_whole hpos h 0 .positive
  rw [Nat.pow_zero, Nat.mul_one] at hnormalize
  exact congrArg (fun u => Float.ofModel (pack u)) hnormalize

theorem ofNat_sub {m : Nat} (hm : 0 < m) (hlt : m < n) (h : n < 2 ^ 53) :
    (Scalar.ofNat n - Scalar.ofNat m : Float) = Scalar.ofNat (n - m) := by
  rw [ofNat_eq_whole (hm.trans hlt) h, ofNat_eq_whole hm (hlt.trans h),
    ofNat_eq_whole (Nat.sub_pos_of_lt hlt) (lt_of_le_of_lt (Nat.sub_le n m) h)]
  change Float.ofModel (pack (UnpackedFloat.sub Format.binary64 (unpacked _) (unpacked _))) = _
  rw [unpacked_pack_whole (hm.trans hlt) h, unpacked_pack_whole hm (hlt.trans h),
    sub_whole hm hlt h]

theorem zero_lt_ofNat (hpos : 0 < n) (h : n < 2 ^ 53) : (0.0 : Float) < Scalar.ofNat n := by
  rw [ofNat_eq_whole hpos h, lt_iff, unpacked_pack_whole hpos h]
  refine ⟨toLex (0, toLex (0, 0)), _, by decide +kernel, rfl, ?_⟩
  exact Prod.Lex.toLex_lt_toLex.mpr (Or.inl zero_lt_one)

end Double
end LayeredPlot
