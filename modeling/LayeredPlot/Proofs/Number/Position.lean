import LayeredPlot.Proofs.Number.Double

/-!
# Positions of doubles

The bits of a double without its sign count the doubles between zero and it, so positions are
ordered as the defined doubles are.
-/

namespace LayeredPlot
namespace Double

open Float.Model Float.Model.UnpackedFloat

/-!
## Doubles counted from zero
-/

def signed : Sign -> Int -> Int
  | .negative, n => -n
  | .positive, n => n

def height : UnpackedFloat -> Int
  | .infinity s => signed s (2047 * 2 ^ 52)
  | .notANumber => 0
  | .zero _ => 0
  | .finite s m e _ => signed s ((e + 1074) * 2 ^ 52 + m)

/-- Mantissa and exponent as doubles have them: only at the least exponent the mantissa may have less
than 53 digits. -/
def IsStored : UnpackedFloat -> Prop
  | .finite _ m e _ => m < 2 ^ 53 ∧ (2 ^ 52 ≤ m ∧ -1074 ≤ e ∨ e = -1074) ∧ e ≤ 971
  | _ => True

theorem le_iff_height_le {u v : UnpackedFloat} (hu : IsStored u) (hv : IsStored v)
    {p q : Int ×ₗ Int ×ₗ Int} (hp : place? u = some p) (hq : place? v = some q) :
    p ≤ q ↔ height u ≤ height v := by
  rcases u with (_ | _) | _ | _ | ⟨_ | _, m, e, hm⟩ <;>
  rcases v with (_ | _) | _ | _ | ⟨_ | _, n, d, hn⟩ <;>
  simp only [place?, Option.some.injEq, reduceCtorEq] at hp hq <;>
  subst hp hq <;>
  simp only [IsStored, height, signed, Prod.Lex.toLex_le_toLex, true_and] at * <;>
  omega

/-!
## Stored bits
-/

theorem signed_unpackSign (b : BitVec Format.binary64.numBits) (n : Int) :
    signed (Sign.ofBitVec (unpackSign b)) n = if b.toNat < 2 ^ 63 then n else -n := by
  have hlt : b.toNat < 2 ^ 64 := b.isLt
  have hsign := toNat_unpackSign b
  simp only [Nat.pow_eq] at hsign
  have hzero : unpackSign b = 0#1 ↔ b.toNat < 2 ^ 63 := by
    rw [← BitVec.toNat_inj, hsign, BitVec.toNat_ofNat]
    omega
  unfold Sign.ofBitVec
  simp only [hzero]
  split
  · rfl
  · rfl

theorem height_finite (s : Sign) {m scale fraction : Nat} {e : Int} (hm : 0 < m)
    (hscale : scale < 2047) (hfraction : fraction < 2 ^ 52)
    (h : scale = 0 ∧ m = fraction ∧ e = -1074
      ∨ 0 < scale ∧ m = 2 ^ 52 + fraction ∧ e = scale - 1075) :
    IsStored (.finite s m e hm)
      ∧ height (.finite s m e hm) = signed s (scale * 2 ^ 52 + fraction) := by
  constructor
  · unfold IsStored
    omega
  · change signed s ((e + 1074) * 2 ^ 52 + m) = signed s (scale * 2 ^ 52 + fraction)
    congr 1
    omega

theorem toNat_unpackExponent_lt {b : BitVec Format.binary64.numBits}
    (h : unpackExponent b ≠ -1#11) : (unpackExponent b).toNat < 2047 := by
  have hlt : (unpackExponent b).toNat < 2 ^ 11 := (unpackExponent b).isLt
  have hne : (unpackExponent b).toNat ≠ 2047 := fun heq => h (BitVec.eq_of_toNat_eq heq)
  omega

theorem height_unpack {b : BitVec Format.binary64.numBits}
    (h : UnpackedFloat.unpack Format.binary64 b ≠ .notANumber) :
    IsStored (UnpackedFloat.unpack Format.binary64 b) ∧
      height (UnpackedFloat.unpack Format.binary64 b)
        = signed (Sign.ofBitVec (unpackSign b))
            ((unpackExponent b).toNat * 2 ^ 52 + (unpackMantissa b).toNat) := by
  have hfraction : (unpackMantissa b).toNat < 2 ^ 52 := (unpackMantissa b).isLt
  unfold UnpackedFloat.unpack at *
  by_cases hspecial : unpackExponent b = -1#11
  · by_cases hzero : unpackMantissa b = 0#52
    · rw [if_pos hspecial, if_pos hzero, hspecial, hzero]
      exact ⟨trivial, rfl⟩
    · rw [if_pos hspecial, if_neg hzero] at h
      exact absurd rfl h
  · have hscale := toNat_unpackExponent_lt hspecial
    rw [if_neg hspecial]
    by_cases hsmall : unpackExponent b = 0#11
    · by_cases hzero : unpackMantissa b = 0#52
      · rw [if_pos hsmall, dif_pos hzero, hsmall, hzero]
        refine ⟨trivial, ?_⟩
        cases Sign.ofBitVec (unpackSign b) <;> simp [height, signed]
      · have hleast : (unpackExponent b).toNat = 0 := congrArg BitVec.toNat hsmall
        rw [if_pos hsmall, dif_neg hzero]
        exact height_finite _ _ hscale hfraction (Or.inl ⟨hleast, rfl, by rw [hleast]; rfl⟩)
    · rw [if_neg hsmall]
      have hpos : 0 < (unpackExponent b).toNat :=
        Nat.pos_of_ne_zero fun hzero => hsmall (BitVec.eq_of_toNat_eq hzero)
      exact height_finite _ _ hscale hfraction (Or.inr ⟨hpos, toNat_one_append _, rfl⟩)

/-!
## Positions
-/

variable {x y : Float}

theorem position_eq (hx : Scalar.IsDefined x) :
    IsStored (unpacked x) ∧ (position x : Int) = 2 ^ 63 + height (unpacked x) := by
  rcases isDefined_iff.mp hx with ⟨p, hp⟩
  have hnumber : unpacked x ≠ .notANumber := by
    intro h
    rw [h] at hp
    cases hp
  rcases height_unpack hnumber with ⟨hstored, hheight⟩
  have hbits : x.toBits.toNat = x.toModel.toBits.toBitVec.toNat := rfl
  have hlt : x.toModel.toBits.toBitVec.toNat < 2 ^ 64 := x.toModel.toBits.toBitVec.isLt
  have hunpacked : unpacked x = UnpackedFloat.unpack Format.binary64 x.toModel.toBits.toBitVec :=
    rfl
  rw [hunpacked, hheight, signed_unpackSign, toNat_unpackExponent, toNat_unpackMantissa]
  unfold position
  simp only [hbits, Nat.pow_eq]
  generalize x.toModel.toBits.toBitVec.toNat = n at *
  refine ⟨hstored, ?_⟩
  split <;> omega

theorem le_iff_position_le (hx : Scalar.IsDefined x) (hy : Scalar.IsDefined y) :
    x ≤ y ↔ position x ≤ position y := by
  rcases position_eq hx with ⟨hsx, hpx⟩
  rcases position_eq hy with ⟨hsy, hpy⟩
  rw [le_iff]
  constructor
  · intro h
    rcases h with ⟨p, q, hp, hq, hpq⟩
    have hheight := (le_iff_height_le hsx hsy hp hq).mp hpq
    omega
  · intro h
    rcases isDefined_iff.mp hx with ⟨p, hp⟩
    rcases isDefined_iff.mp hy with ⟨q, hq⟩
    exact ⟨p, q, hp, hq, (le_iff_height_le hsx hsy hp hq).mpr (by omega)⟩

end Double
end LayeredPlot
