import LayeredPlot.Number.Double
import LayeredPlot.Proofs.Number.Laws
import Mathlib

/-!
# Laws of doubles

A double is a sign, a mantissa and an exponent, packed into bits.  Doubles are ordered as these
fields are, and the sign of a zero does not show in an operation unless the zero is a divisor.
-/

namespace LayeredPlot
namespace Double

open Float.Model

/-!
## Order
-/

/-- Where an unpacked double stands among the others; the two zeros stand in one place. -/
def place? : UnpackedFloat -> Option (Int ×ₗ Int ×ₗ Int)
  | .notANumber => none
  | .infinity .negative => some (toLex (-2, toLex (0, 0)))
  | .infinity .positive => some (toLex (2, toLex (0, 0)))
  | .zero _ => some (toLex (0, toLex (0, 0)))
  | .finite .negative m e _ => some (toLex (-1, toLex (-e, -(m : Int))))
  | .finite .positive m e _ => some (toLex (1, toLex (e, (m : Int))))

theorem compare_then_isLE_iff {e d : Int} {m n : Nat} :
    ((compare e d).then (compare m n)).isLE = true ↔ e < d ∨ e = d ∧ m ≤ n := by
  rw [Ordering.isLE_then_iff_or, Int.compare_eq_lt, Int.compare_eq_eq, Nat.isLE_compare]

theorem compare_then_isGE_iff {e d : Int} {m n : Nat} :
    ((compare e d).then (compare m n)).isGE = true ↔ d < e ∨ e = d ∧ n ≤ m := by
  rw [← Ordering.isLE_swap, Ordering.swap_then, Int.compare_swap, Nat.compare_swap,
    compare_then_isLE_iff, eq_comm]

theorem compare_then_eq_lt_iff {e d : Int} {m n : Nat} :
    (compare e d).then (compare m n) = .lt ↔ e < d ∨ e = d ∧ m < n := by
  rw [Ordering.then_eq_lt, Int.compare_eq_lt, Int.compare_eq_eq, Nat.compare_eq_lt]

theorem compare_then_eq_gt_iff {e d : Int} {m n : Nat} :
    (compare e d).then (compare m n) = .gt ↔ d < e ∨ e = d ∧ n < m := by
  rw [Ordering.then_eq_gt, Int.compare_eq_gt, Int.compare_eq_eq, Nat.compare_eq_gt]

theorem unpacked_le_iff {u v : UnpackedFloat} :
    u.le v = true ↔ exists p q, place? u = some p ∧ place? v = some q ∧ p ≤ q := by
  rcases u with (_ | _) | _ | (_ | _) | ⟨_ | _, m, e, hm⟩ <;>
  rcases v with (_ | _) | _ | (_ | _) | ⟨_ | _, n, d, hn⟩ <;>
  simp [UnpackedFloat.le, UnpackedFloat.compare, place?, Prod.Lex.toLex_le_toLex,
    compare_then_isLE_iff, compare_then_isGE_iff]
  all_goals decide

theorem unpacked_lt_iff {u v : UnpackedFloat} :
    u.lt v = true ↔ exists p q, place? u = some p ∧ place? v = some q ∧ p < q := by
  rcases u with (_ | _) | _ | (_ | _) | ⟨_ | _, m, e, hm⟩ <;>
  rcases v with (_ | _) | _ | (_ | _) | ⟨_ | _, n, d, hn⟩ <;>
  simp [UnpackedFloat.lt, UnpackedFloat.compare, place?, Prod.Lex.toLex_lt_toLex,
    compare_then_eq_lt_iff, compare_then_eq_gt_iff]
  all_goals decide

def unpacked (x : Float) : UnpackedFloat :=
  x.toModel.unpack

variable {x x' y y' : Float}

theorem le_iff : x ≤ y ↔ exists p q,
    place? (unpacked x) = some p ∧ place? (unpacked y) = some q ∧ p ≤ q := by
  rw [← unpacked_le_iff]
  exact decide_eq_true_iff

theorem lt_iff : x < y ↔ exists p q,
    place? (unpacked x) = some p ∧ place? (unpacked y) = some q ∧ p < q := by
  rw [← unpacked_lt_iff]
  exact decide_eq_true_iff

theorem isDefined_iff : Scalar.IsDefined x ↔ exists p, place? (unpacked x) = some p := by
  unfold Scalar.IsDefined
  rw [le_iff]
  constructor
  · intro h
    rcases h with ⟨p, q, hp, -, -⟩
    exact ⟨p, hp⟩
  · intro h
    rcases h with ⟨p, hp⟩
    exact ⟨p, p, hp, hp, le_refl p⟩

instance : Scalar.LawfulOrder Float where
  negInfinite_lt_infinite := by decide +kernel
  le_trans := by
    intro x y z hxy hyz
    rcases le_iff.mp hxy with ⟨p, q, hp, hq, hpq⟩
    rcases le_iff.mp hyz with ⟨q', r, hq', hr, hqr⟩
    cases hq.symm.trans hq'
    exact le_iff.mpr ⟨p, r, hp, hr, hpq.trans hqr⟩
  le_or_le := by
    intro x y hx hy
    rcases isDefined_iff.mp hx with ⟨p, hp⟩
    rcases isDefined_iff.mp hy with ⟨q, hq⟩
    rcases le_total p q with hpq | hqp
    · exact Or.inl (le_iff.mpr ⟨p, q, hp, hq, hpq⟩)
    · exact Or.inr (le_iff.mpr ⟨q, p, hq, hp, hqp⟩)
  isDefined_of_le := by
    intro x y h
    rcases le_iff.mp h with ⟨p, q, hp, hq, -⟩
    exact ⟨isDefined_iff.mpr ⟨p, hp⟩, isDefined_iff.mpr ⟨q, hq⟩⟩
  lt_iff_le_not_le := by
    intro x y
    rw [lt_iff, le_iff, le_iff]
    constructor
    · intro h
      rcases h with ⟨p, q, hp, hq, hpq⟩
      refine ⟨⟨p, q, hp, hq, hpq.le⟩, ?_⟩
      intro hle
      rcases hle with ⟨q', p', hq', hp', hqp⟩
      cases hp.symm.trans hp'
      cases hq.symm.trans hq'
      exact hpq.not_ge hqp
    · intro h
      rcases h with ⟨⟨p, q, hp, hq, hpq⟩, hnot⟩
      exact ⟨p, q, hp, hq, lt_of_le_not_ge hpq fun hqp => hnot ⟨q, p, hq, hp, hqp⟩⟩

/-!
## Zeros
-/

def Close (u v : UnpackedFloat) : Prop :=
  u = v ∨ exists s t, u = .zero s ∧ v = .zero t

theorem Close.trans {u v w : UnpackedFloat} (huv : Close u v) (hvw : Close v w) : Close u w := by
  rcases huv with rfl | ⟨s, t, rfl, rfl⟩
  · exact hvw
  · rcases hvw with rfl | ⟨_, r, _, rfl⟩
    · exact Or.inr ⟨s, t, rfl, rfl⟩
    · exact Or.inr ⟨s, r, rfl, rfl⟩

theorem close_of_place?_eq {u v : UnpackedFloat} (h : place? u = place? v) : Close u v := by
  rcases u with (_ | _) | _ | (_ | _) | ⟨_ | _, m, e, hm⟩ <;>
  rcases v with (_ | _) | _ | (_ | _) | ⟨_ | _, n, d, hn⟩ <;>
  simp_all [place?, Close]

theorem close_of_alike (h : Scalar.Alike x y) : Close (unpacked x) (unpacked y) := by
  apply close_of_place?_eq
  rcases h with ⟨hxy, hyx⟩ | ⟨hx, hy⟩
  · rcases le_iff.mp hxy with ⟨p, q, hp, hq, hpq⟩
    rcases le_iff.mp hyx with ⟨q', p', hq', hp', hqp⟩
    cases hp.symm.trans hp'
    cases hq.symm.trans hq'
    rw [hp, hq, hpq.antisymm hqp]
  · rw [isDefined_iff, ← Option.ne_none_iff_exists', not_not] at hx hy
    rw [hx, hy]

theorem alike_pack {u v : UnpackedFloat} (h : Close u v) :
    Scalar.Alike (Float.ofModel (pack u)) (Float.ofModel (pack v)) := by
  rcases h with rfl | ⟨s, t, rfl, rfl⟩
  · exact Scalar.Alike.refl _
  · cases s <;> cases t <;> exact Or.inl (by decide +kernel)

variable {spec : Format} {u u' v v' : UnpackedFloat}

/-!
## Operations
-/

theorem Close.congr {op : UnpackedFloat -> UnpackedFloat -> UnpackedFloat}
    (hleft : forall s t v, Close (op (.zero s) v) (op (.zero t) v))
    (hright : forall u s t, Close (op u (.zero s)) (op u (.zero t)))
    (hu : Close u u') (hv : Close v v') : Close (op u v) (op u' v') := by
  have hfirst : Close (op u v) (op u' v) := by
    rcases hu with rfl | ⟨s, t, rfl, rfl⟩
    · exact Or.inl rfl
    · exact hleft s t v
  rcases hv with rfl | ⟨s, t, rfl, rfl⟩
  · exact hfirst
  · exact hfirst.trans (hright u' s t)

theorem add_zero_close (u : UnpackedFloat) (s t : UnpackedFloat.Sign) :
    Close (UnpackedFloat.add spec u (.zero s)) (UnpackedFloat.add spec u (.zero t)) := by
  rcases u with _ | _ | r | _
  · exact Or.inl rfl
  · exact Or.inl rfl
  · cases r <;> cases s <;> cases t <;> exact Or.inr ⟨_, _, rfl, rfl⟩
  · exact Or.inl rfl

theorem zero_add_close (s t : UnpackedFloat.Sign) (v : UnpackedFloat) :
    Close (UnpackedFloat.add spec (.zero s) v) (UnpackedFloat.add spec (.zero t) v) := by
  rcases v with _ | _ | r | _
  · exact Or.inl rfl
  · exact Or.inl rfl
  · cases r <;> cases s <;> cases t <;> exact Or.inr ⟨_, _, rfl, rfl⟩
  · exact Or.inl rfl

theorem sub_zero_close (u : UnpackedFloat) (s t : UnpackedFloat.Sign) :
    Close (UnpackedFloat.sub spec u (.zero s)) (UnpackedFloat.sub spec u (.zero t)) := by
  rcases u with _ | _ | r | _
  · exact Or.inl rfl
  · exact Or.inl rfl
  · cases r <;> cases s <;> cases t <;> exact Or.inr ⟨_, _, rfl, rfl⟩
  · exact Or.inl rfl

theorem zero_sub_close (s t : UnpackedFloat.Sign) (v : UnpackedFloat) :
    Close (UnpackedFloat.sub spec (.zero s) v) (UnpackedFloat.sub spec (.zero t) v) := by
  rcases v with _ | _ | r | _
  · exact Or.inl rfl
  · exact Or.inl rfl
  · cases r <;> cases s <;> cases t <;> exact Or.inr ⟨_, _, rfl, rfl⟩
  · exact Or.inl rfl

theorem mul_zero_close (u : UnpackedFloat) (s t : UnpackedFloat.Sign) :
    Close (UnpackedFloat.mul spec u (.zero s)) (UnpackedFloat.mul spec u (.zero t)) := by
  rcases u with _ | _ | _ | _
  · exact Or.inl rfl
  · exact Or.inl rfl
  · exact Or.inr ⟨_, _, rfl, rfl⟩
  · exact Or.inr ⟨_, _, rfl, rfl⟩

theorem zero_mul_close (s t : UnpackedFloat.Sign) (v : UnpackedFloat) :
    Close (UnpackedFloat.mul spec (.zero s) v) (UnpackedFloat.mul spec (.zero t) v) := by
  rcases v with _ | _ | _ | _
  · exact Or.inl rfl
  · exact Or.inl rfl
  · exact Or.inr ⟨_, _, rfl, rfl⟩
  · exact Or.inr ⟨_, _, rfl, rfl⟩

theorem div_close (hu : Close u u') (v : UnpackedFloat) :
    Close (UnpackedFloat.div spec u v) (UnpackedFloat.div spec u' v) := by
  rcases hu with rfl | ⟨s, t, rfl, rfl⟩
  · exact Or.inl rfl
  · rcases v with _ | _ | r | _
    · exact Or.inr ⟨_, _, rfl, rfl⟩
    · exact Or.inl rfl
    · exact Or.inl rfl
    · exact Or.inr ⟨_, _, rfl, rfl⟩

/-- Of two doubles in their order at most one is zero, and its sign is lost in the difference. -/
theorem sub_eq_of_lt (h : u.lt v = true) (hu : Close u u') (hv : Close v v') :
    UnpackedFloat.sub spec v u = UnpackedFloat.sub spec v' u' := by
  rcases hu with rfl | ⟨s, t, rfl, rfl⟩
  · rcases hv with rfl | ⟨s, t, rfl, rfl⟩
    · rfl
    · rcases u with _ | _ | r | _
      · rfl
      · rfl
      · cases h
      · rfl
  · rcases hv with rfl | ⟨s', t', rfl, rfl⟩
    · rcases v with _ | _ | r | _
      · rfl
      · rfl
      · cases h
      · rfl
    · cases h

instance : Scalar.LawfulArithmetic Float where
  add_alike := fun hx hy => alike_pack
    (Close.congr zero_add_close add_zero_close (close_of_alike hx) (close_of_alike hy))
  sub_alike := fun hx hy => alike_pack
    (Close.congr zero_sub_close sub_zero_close (close_of_alike hx) (close_of_alike hy))
  mul_alike := fun hx hy => alike_pack
    (Close.congr zero_mul_close mul_zero_close (close_of_alike hx) (close_of_alike hy))

theorem lawful
    (hfloor : forall {x y : Float}, Scalar.Alike x y ->
      Scalar.truncate (Scalar.floor x) = Scalar.truncate (Scalar.floor y))
    (hceil : forall {x y : Float}, Scalar.Alike x y ->
      Scalar.truncate (Scalar.ceil x) = Scalar.truncate (Scalar.ceil y)) :
    Scalar.Lawful Float where
  div_alike := fun hx y => alike_pack (div_close (close_of_alike hx) (unpacked y))
  sub_eq_of_lt := by
    intro x x' y y' hlt hx hy
    have hunpacked : (unpacked x).lt (unpacked y) = true := of_decide_eq_true hlt
    exact congrArg (fun u => Float.ofModel (pack u))
      (sub_eq_of_lt hunpacked (close_of_alike hx) (close_of_alike hy))
  truncate_floor_eq := hfloor
  truncate_ceil_eq := hceil

/-!
## Undefined operands
-/

theorem eq_notANumber_of_place?_eq_none {u : UnpackedFloat} (h : place? u = none) :
    u = .notANumber := by
  rcases u with (_ | _) | _ | _ | ⟨_ | _, m, e, hm⟩
  case notANumber => rfl
  all_goals cases h

theorem unpacked_of_not_isDefined (h : ¬ Scalar.IsDefined x) : unpacked x = .notANumber := by
  apply eq_notANumber_of_place?_eq_none
  rwa [isDefined_iff, ← Option.ne_none_iff_exists', not_not] at h

theorem not_isDefined_pack_notANumber :
    ¬ Scalar.IsDefined (Float.ofModel (pack UnpackedFloat.notANumber)) := by
  decide +kernel

theorem not_isDefined_add (h : ¬ Scalar.IsDefined x) (y : Float) : ¬ Scalar.IsDefined (x + y) := by
  change ¬ Scalar.IsDefined
    (Float.ofModel (pack (UnpackedFloat.add Format.binary64 (unpacked x) (unpacked y))))
  rw [unpacked_of_not_isDefined h]
  exact not_isDefined_pack_notANumber

theorem not_isDefined_sub (h : ¬ Scalar.IsDefined x) (y : Float) : ¬ Scalar.IsDefined (x - y) := by
  change ¬ Scalar.IsDefined
    (Float.ofModel (pack (UnpackedFloat.sub Format.binary64 (unpacked x) (unpacked y))))
  rw [unpacked_of_not_isDefined h]
  exact not_isDefined_pack_notANumber

/-!
## Special doubles
-/

theorem toNat_unpackExponent (b : BitVec Format.binary64.numBits) :
    (UnpackedFloat.unpackExponent b).toNat = b.toNat / Nat.pow 2 52 % Nat.pow 2 11 := by
  unfold UnpackedFloat.unpackExponent
  rw [BitVec.toNat_cast, BitVec.extractLsb_toNat, Nat.shiftRight_eq_div_pow]
  rfl

theorem toNat_unpackMantissa (b : BitVec Format.binary64.numBits) :
    (UnpackedFloat.unpackMantissa b).toNat = b.toNat % Nat.pow 2 52 := by
  unfold UnpackedFloat.unpackMantissa
  rw [BitVec.toNat_cast, BitVec.extractLsb_toNat, Nat.shiftRight_eq_div_pow, Nat.pow_zero,
    Nat.div_one]
  rfl

theorem toNat_unpackSign (b : BitVec Format.binary64.numBits) :
    (UnpackedFloat.unpackSign b).toNat = b.toNat / Nat.pow 2 63 % Nat.pow 2 1 := by
  unfold UnpackedFloat.unpackSign
  rw [BitVec.toNat_cast, BitVec.extractLsb_toNat, Nat.shiftRight_eq_div_pow]
  rfl

theorem toNat_one_append (m : BitVec 52) : (1#1 ++ m).toNat = 2 ^ 52 + m.toNat := by
  rw [BitVec.toNat_append, ← Nat.shiftLeft_add_eq_or_of_lt m.isLt, Nat.shiftLeft_eq]
  rfl

theorem eq_of_toBits_eq {x y : Float} (h : x.toModel.toBits = y.toModel.toBits) : x = y := by
  rcases x with ⟨⟨b, _⟩⟩
  rcases y with ⟨⟨c, _⟩⟩
  cases h
  rfl

theorem unpackExponent_of_not_isFinite {x : Float} (h : x.isFinite = false) :
    @UnpackedFloat.unpackExponent Format.binary64 x.toModel.toBits.toBitVec = -1#_ := by
  change (UnpackedFloat.unpack Format.binary64 x.toModel.toBits.toBitVec).isFinite = false at h
  unfold UnpackedFloat.unpack at h
  by_contra hne
  simp only [hne, ↓reduceIte] at h
  split at h
  · split at h <;> cases h
  · cases h

theorem special_of_not_isFinite {x : Float} (h : x.isFinite = false) :
    x = 0.0 / 0.0 ∨ x = 1.0 / 0.0 ∨ x = -1.0 / 0.0 := by
  have hexponent := unpackExponent_of_not_isFinite h
  by_cases hmantissa :
      @UnpackedFloat.unpackMantissa Format.binary64 x.toModel.toBits.toBitVec = 0#_
  · right
    have hscale : x.toModel.toBits.toNat / 2 ^ 52 % 2 ^ 11 = 2047 :=
      (toNat_unpackExponent _).symm.trans (congrArg BitVec.toNat hexponent)
    have hfraction : x.toModel.toBits.toNat % 2 ^ 52 = 0 :=
      (toNat_unpackMantissa _).symm.trans (congrArg BitVec.toNat hmantissa)
    have hlt : x.toModel.toBits.toNat < 2 ^ 64 := UInt64.toNat_lt _
    have hbits : x.toModel.toBits.toNat = 2047 * 2 ^ 52
        ∨ x.toModel.toBits.toNat = 2 ^ 63 + 2047 * 2 ^ 52 := by
      omega
    refine hbits.imp (fun h => eq_of_toBits_eq ?_) (fun h => eq_of_toBits_eq ?_)
    all_goals
      rw [← UInt64.toNat_inj, h]
      decide +kernel
  · left
    apply eq_of_toBits_eq
    have hbits := x.toModel.valid.eq_packedNaN hexponent hmantissa
    exact (congrArg UInt64.ofBitVec hbits).trans (by decide +kernel)

end Double
end LayeredPlot
