import LayeredPlot.Number.Exact
import LayeredPlot.Proofs.Number.Laws
import Mathlib.Algebra.Order.Field.Rat
import Mathlib.Data.Rat.Floor
import Mathlib.Tactic.Linarith
import Mathlib.Tactic.NormNum

/-!
# Rationals among the exact numbers

Operations on exact numbers that are rational are the operations on rationals.
The order of all exact numbers is transitive, and an undefined number is the
only one that is not comparable with itself.
-/

namespace LayeredPlot
namespace Exact

/-!
## Operations on rationals
-/

theorem value_add (p q : Rat) : value p + value q = value (p + q) := rfl

theorem value_sub (p q : Rat) : value p - value q = value (p - q) := by
  rw [sub_eq_add_neg]
  rfl

theorem value_mul (p q : Rat) : value p * value q = value (p * q) := rfl

theorem value_div (p : Rat) {q : Rat} (hq : q ≠ 0) : value p / value q = value (p / q) := by
  show Exact.div (value p) (value q) = value (p / q)
  rw [Exact.div, if_neg hq]

theorem square_value (p : Rat) : Scalar.square (value p) = value (p ^ 2) := by
  show value (p * p) = value (p ^ 2)
  rw [pow_two]

theorem ofInt_eq (n : Int) : (Scalar.ofInt n : Exact) = value (n : Rat) := rfl

theorem ofNat_eq (n : Nat) : (Scalar.ofNat n : Exact) = value (n : Rat) := rfl

theorem powTen_eq (z : Int) : (Scalar.powTen z : Exact) = value ((10 : Rat) ^ z) := rfl

theorem floor_value (q : Rat) : Scalar.floor (value q) = value (⌊q⌋ : Rat) := rfl

theorem ceil_value (q : Rat) : Scalar.ceil (value q) = value (⌈q⌉ : Rat) := by
  show value (Rat.ofInt q.ceil) = value (Rat.ofInt ⌈q⌉)
  rw [Rat.ceil_eq_neg_floor_neg]
  rfl

theorem truncate_value (n : Int) : Scalar.truncate (value (n : Rat)) = n := by
  show Int.tdiv (n : Rat).num (n : Rat).den = n
  simp

theorem truncate_floor_div (p : Rat) {q : Rat} (hq : q ≠ 0) :
    Scalar.truncate (Scalar.floor (value p / value q)) = ⌊p / q⌋ := by
  rw [value_div _ hq, floor_value, truncate_value]

theorem truncate_ceil_div (p : Rat) {q : Rat} (hq : q ≠ 0) :
    Scalar.truncate (Scalar.ceil (value p / value q)) = ⌈p / q⌉ := by
  rw [value_div _ hq, ceil_value, truncate_value]

theorem decimal_eq (mantissa places : Nat) :
    (OfScientific.ofScientific mantissa true places : Exact)
      = value ((mantissa : Rat) / 10 ^ places) := by
  show value (mkRat mantissa (Nat.pow 10 places)) = _
  rw [Rat.mkRat_eq_div, Nat.pow_eq]
  push_cast
  rfl

theorem zero_eq : (0.0 : Exact) = value 0 := by decide

theorem one_eq : (1.0 : Exact) = value 1 := by decide

theorem two_eq : (2.0 : Exact) = value 2 := by decide

theorem half_eq : (0.5 : Exact) = value (1 / 2) := by
  rw [decimal_eq]
  norm_num

theorem tenth_eq : (0.1 : Exact) = value (1 / 10) := by
  rw [decimal_eq]
  norm_num

theorem exists_value_of_add_eq_value {x : Exact} {p q : Rat} (h : x + value p = value q) :
    exists r, x = value r := by
  cases x with
  | value r => exact ⟨r, rfl⟩
  | infinite => cases h
  | negInfinite => cases h
  | undefined => cases h

/-!
## Order
-/

attribute [local simp] Exact.le Exact.lt

theorem value_le_value {p q : Rat} : value p ≤ value q ↔ p ≤ q := by
  show Exact.le (value p) (value q) = true ↔ p ≤ q
  simp

theorem value_lt_value {p q : Rat} : value p < value q ↔ p < q := by
  show Exact.lt (value p) (value q) = true ↔ p < q
  simp only [Exact.lt, Exact.le, Bool.and_eq_true, decide_eq_true_eq, Bool.not_eq_true',
    decide_eq_false_iff_not, not_le]
  exact ⟨And.right, fun h => ⟨h.le, h⟩⟩

theorem lt_iff_le_not_le {x y : Exact} : x < y ↔ x ≤ y ∧ ¬ y ≤ x := by
  show Exact.lt x y = true ↔ Exact.le x y = true ∧ ¬ Exact.le y x = true
  simp

protected theorem le_of_lt {x y : Exact} (h : x < y) : x ≤ y :=
  (lt_iff_le_not_le.mp h).left

protected theorem not_le_of_lt {x y : Exact} (h : x < y) : ¬ y ≤ x :=
  (lt_iff_le_not_le.mp h).right

protected theorem le_trans {x y z : Exact} (hxy : x ≤ y) (hyz : y ≤ z) : x ≤ z := by
  change Exact.le x y = true at hxy
  change Exact.le y z = true at hyz
  show Exact.le x z = true
  cases x <;> cases y <;> cases z <;> simp_all
  exact hxy.trans hyz

protected theorem le_antisymm {x y : Exact} (hxy : x ≤ y) (hyx : y ≤ x) : x = y := by
  change Exact.le x y = true at hxy
  change Exact.le y x = true at hyx
  cases x <;> cases y <;> simp_all
  exact hxy.antisymm hyx

protected theorem lt_of_lt_of_le {x y z : Exact} (hxy : x < y) (hyz : y ≤ z) : x < z := by
  refine lt_iff_le_not_le.mpr ⟨Exact.le_trans (Exact.le_of_lt hxy) hyz, ?_⟩
  intro hzx
  exact Exact.not_le_of_lt hxy (Exact.le_trans hyz hzx)

protected theorem lt_trans {x y z : Exact} (hxy : x < y) (hyz : y < z) : x < z :=
  Exact.lt_of_lt_of_le hxy (Exact.le_of_lt hyz)

protected theorem le_or_lt {x y : Exact} (hx : Scalar.IsDefined x) (hy : Scalar.IsDefined y) :
    x ≤ y ∨ y < x := by
  by_cases h : x ≤ y
  · exact Or.inl h
  · refine Or.inr (lt_iff_le_not_le.mpr ⟨?_, h⟩)
    change Exact.le x x = true at hx
    change Exact.le y y = true at hy
    change ¬ Exact.le x y = true at h
    show Exact.le y x = true
    cases x <;> cases y <;> simp_all
    exact h.le

theorem isDefined_of_lt {x y : Exact} (h : x < y) : Scalar.IsDefined x ∧ Scalar.IsDefined y := by
  change Exact.lt x y = true at h
  show Exact.le x x = true ∧ Exact.le y y = true
  cases x <;> cases y <;> simp_all

theorem isDefined_of_le {x y : Exact} (h : x ≤ y) : Scalar.IsDefined x ∧ Scalar.IsDefined y := by
  change Exact.le x y = true at h
  show Exact.le x x = true ∧ Exact.le y y = true
  cases x <;> cases y <;> simp_all

theorem isFinite_iff {x : Exact} : Scalar.IsFinite x ↔ exists q, x = value q := by
  show Exact.lt .negInfinite x = true ∧ Exact.lt x .infinite = true ↔ _
  cases x <;> simp

theorem isDefined_of_isFinite {x : Exact} (h : Scalar.IsFinite x) : Scalar.IsDefined x :=
  (isDefined_of_lt h.1).2

theorem lesser_value (p q : Rat) : Scalar.lesser (value p) (value q) = value (min p q) := by
  unfold Scalar.lesser Scalar.IsDefined
  simp only [value_lt_value, value_le_value, le_refl, if_true]
  by_cases h : p < q
  · rw [if_pos h, min_eq_left h.le]
  · rw [if_neg h, min_eq_right (not_lt.mp h)]

theorem greater_value (p q : Rat) : Scalar.greater (value p) (value q) = value (max p q) := by
  unfold Scalar.greater Scalar.IsDefined
  simp only [value_lt_value, value_le_value, le_refl, if_true]
  by_cases h : q < p
  · rw [if_pos h, max_eq_left h.le]
  · rw [if_neg h, max_eq_right (not_lt.mp h)]

/-!
## Sums and products that do not decrease

Where an operand may be infinite or undefined, the sum of greater numbers can be
undefined.  What remains true is that it is not less.
-/

theorem not_add_lt_add {x x' y y' : Exact} (hx : ¬ x' < x) (hy : ¬ y' < y) :
    ¬ x' + y' < x + y := by
  intro h
  cases x' <;> cases y' <;> cases x <;> cases y
  case value.value.value.value p' q' p q =>
    rw [value_lt_value, not_lt] at hx hy
    rw [value_add, value_add, value_lt_value] at h
    exact absurd h (not_lt.mpr (add_le_add hx hy))
  all_goals first | exact Bool.noConfusion h | exact hx rfl | exact hy rfl

theorem not_infinite_lt (x : Exact) : ¬ infinite < x := by
  cases x <;> exact Bool.false_ne_true

theorem not_undefined_lt (x : Exact) : ¬ undefined < x := by
  cases x <;> exact Bool.false_ne_true

theorem not_infinityOf_lt_infinityOf {p q : Rat} (h : p ≤ q) :
    ¬ infinityOf q < infinityOf p := by
  rcases lt_trichotomy q 0 with hq | hq | hq
  · have hp : p < 0 := lt_of_le_of_lt h hq
    simp only [infinityOf, hp, hp.not_gt, hq, hq.not_gt, if_true, if_false]
    exact Bool.false_ne_true
  · simp only [infinityOf, hq, lt_irrefl, if_false]
    exact not_undefined_lt _
  · simp only [infinityOf, hq, if_true]
    exact not_infinite_lt _

theorem not_mul_lt_mul {w : Exact} (hw : (0.0 : Exact) ≤ w) {p q : Rat} (h : p ≤ q) :
    ¬ w * value q < w * value p := by
  rw [zero_eq] at hw
  cases w with
  | value r =>
      rw [value_mul, value_mul, value_lt_value, not_lt]
      exact mul_le_mul_of_nonneg_left h (value_le_value.mp hw)
  | infinite => exact not_infinityOf_lt_infinityOf h
  | negInfinite => exact absurd hw Bool.false_ne_true
  | undefined => exact absurd hw Bool.false_ne_true

theorem not_self_lt (x : Exact) : ¬ x < x := by
  intro h
  exact Exact.not_le_of_lt h (Exact.le_of_lt h)

theorem mul_value_one (x : Exact) : x * value 1 = x := by
  cases x with
  | value q => rw [value_mul, Rat.mul_one]
  | infinite => rfl
  | negInfinite => rfl
  | undefined => rfl

/-!
## Laws of scalars

Exact numbers have one zero and one undefined number, so alike ones are equal.
-/

instance : Scalar.LawfulOrder Exact where
  negInfinite_lt_infinite := by decide
  le_trans := Exact.le_trans
  le_or_le := by
    intro x y hx hy
    exact (Exact.le_or_lt hx hy).imp_right Exact.le_of_lt
  isDefined_of_le := isDefined_of_le
  lt_iff_le_not_le := lt_iff_le_not_le

theorem eq_undefined_of_not_isDefined {x : Exact} (h : ¬ Scalar.IsDefined x) : x = undefined := by
  change ¬ Exact.le x x = true at h
  cases x <;> simp_all

theorem alike_iff_eq {x y : Exact} : Scalar.Alike x y ↔ x = y := by
  constructor
  · intro h
    rcases h with ⟨hxy, hyx⟩ | ⟨hx, hy⟩
    · exact Exact.le_antisymm hxy hyx
    · rw [eq_undefined_of_not_isDefined hx, eq_undefined_of_not_isDefined hy]
  · exact Scalar.Alike.of_eq

instance : Scalar.Lawful Exact where
  add_alike := by
    intro x x' y y' hx hy
    rw [alike_iff_eq.mp hx, alike_iff_eq.mp hy]
    exact Scalar.Alike.refl _
  sub_alike := by
    intro x x' y y' hx hy
    rw [alike_iff_eq.mp hx, alike_iff_eq.mp hy]
    exact Scalar.Alike.refl _
  mul_alike := by
    intro x x' y y' hx hy
    rw [alike_iff_eq.mp hx, alike_iff_eq.mp hy]
    exact Scalar.Alike.refl _
  div_alike := by
    intro x x' hx y
    rw [alike_iff_eq.mp hx]
    exact Scalar.Alike.refl _
  sub_eq_of_lt := by
    intro x x' y y' _ hx hy
    rw [alike_iff_eq.mp hx, alike_iff_eq.mp hy]
  truncate_floor_eq := by
    intro x x' hx
    rw [alike_iff_eq.mp hx]
  truncate_ceil_eq := by
    intro x x' hx
    rw [alike_iff_eq.mp hx]

end Exact
end LayeredPlot
