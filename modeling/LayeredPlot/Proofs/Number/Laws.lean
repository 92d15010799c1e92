import LayeredPlot.Number.Scalar
import Mathlib.Logic.Basic

/-!
# Laws of scalars

Doubles round and have two zeros, so they obey few of the laws of arithmetic.  They do obey the
laws of an order on the defined scalars, and their operations do not tell scalars apart that are
the same as numbers, unless they divide by them.  Exact numbers obey these laws too.
-/

namespace LayeredPlot
namespace Scalar

/-- The order is transitive, and total on the defined scalars; no other ones are comparable. -/
class LawfulOrder (num : Type) [Scalar num] : Prop where
  negInfinite_lt_infinite : (negInfinite : num) < infinite
  le_trans : forall {x y z : num}, x ≤ y -> y ≤ z -> x ≤ z
  le_or_le : forall {x y : num}, IsDefined x -> IsDefined y -> x ≤ y ∨ y ≤ x
  isDefined_of_le : forall {x y : num}, x ≤ y -> IsDefined x ∧ IsDefined y
  lt_iff_le_not_le : forall {x y : num}, x < y ↔ x ≤ y ∧ ¬ y ≤ x

variable {num : Type} [Scalar num]

/-- Alike scalars are the same as numbers or both undefined. -/
def Alike (x y : num) : Prop :=
  Same x y ∨ (¬ IsDefined x ∧ ¬ IsDefined y)

namespace Alike

variable {x y : num}

protected theorem refl (x : num) : Alike x x := by
  by_cases h : IsDefined x
  · exact Or.inl ⟨h, h⟩
  · exact Or.inr ⟨h, h⟩

protected theorem symm (h : Alike x y) : Alike y x :=
  h.imp And.symm And.symm

theorem of_eq (h : x = y) : Alike x y :=
  h ▸ Alike.refl x

theorem same (h : Alike x y) (hx : IsDefined x) : Same x y :=
  h.resolve_right fun hundefined => hundefined.1 hx

end Alike

theorem lesser_eq_or (x y : num) : lesser x y = x ∨ lesser x y = y := by
  unfold lesser
  split
  · exact Or.inl rfl
  · split
    · exact Or.inr rfl
    · exact Or.inl rfl

theorem greater_eq_or (x y : num) : greater x y = x ∨ greater x y = y := by
  unfold greater
  split
  · exact Or.inl rfl
  · split
    · exact Or.inr rfl
    · exact Or.inl rfl

theorem lesser_of_both {P : num -> Prop} {x y : num} (hx : P x) (hy : P y) : P (lesser x y) := by
  rcases lesser_eq_or x y with h | h
  · rw [h]
    exact hx
  · rw [h]
    exact hy

theorem greater_of_both {P : num -> Prop} {x y : num} (hx : P x) (hy : P y) :
    P (greater x y) := by
  rcases greater_eq_or x y with h | h
  · rw [h]
    exact hx
  · rw [h]
    exact hy

theorem lesser_self (x : num) : lesser x x = x :=
  (lesser_eq_or x x).elim id id

theorem greater_self (x : num) : greater x x = x :=
  (greater_eq_or x x).elim id id

theorem lesser_lesser (x y : num) : lesser (lesser x y) y = lesser x y := by
  rcases lesser_eq_or x y with h | h
  · rw [h, h]
  · rw [h, lesser_self]

theorem greater_greater (x y : num) : greater (greater x y) y = greater x y := by
  rcases greater_eq_or x y with h | h
  · rw [h, h]
  · rw [h, greater_self]

section Order

variable [LawfulOrder num] {x x' y y' z : num}

theorem le_of_lt (h : x < y) : x ≤ y :=
  (LawfulOrder.lt_iff_le_not_le.mp h).1

theorem le_of_not_lt (hx : IsDefined x) (hy : IsDefined y) (h : ¬ x < y) : y ≤ x := by
  by_cases hyx : y ≤ x
  · exact hyx
  · have hxy := (LawfulOrder.le_or_le hx hy).resolve_right hyx
    exact absurd (LawfulOrder.lt_iff_le_not_le.mpr ⟨hxy, hyx⟩) h

theorem lt_of_le_of_lt (hxy : x ≤ y) (hyz : y < z) : x < z := by
  rcases LawfulOrder.lt_iff_le_not_le.mp hyz with ⟨hle, hnot⟩
  refine LawfulOrder.lt_iff_le_not_le.mpr ⟨LawfulOrder.le_trans hxy hle, ?_⟩
  intro hzx
  exact hnot (LawfulOrder.le_trans hzx hxy)

theorem lt_of_lt_of_le (hxy : x < y) (hyz : y ≤ z) : x < z := by
  rcases LawfulOrder.lt_iff_le_not_le.mp hxy with ⟨hle, hnot⟩
  refine LawfulOrder.lt_iff_le_not_le.mpr ⟨LawfulOrder.le_trans hle hyz, ?_⟩
  intro hzx
  exact hnot (LawfulOrder.le_trans hyz hzx)

theorem lt_of_not_le (hx : IsDefined x) (hy : IsDefined y) (h : ¬ y ≤ x) : x < y :=
  LawfulOrder.lt_iff_le_not_le.mpr ⟨(LawfulOrder.le_or_le hx hy).resolve_right h, h⟩

theorem lt_of_not_le_of_le (hx : IsDefined x) (hyx : ¬ y ≤ x) (hyz : y ≤ z) : x < z :=
  lt_of_lt_of_le (lt_of_not_le hx (LawfulOrder.isDefined_of_le hyz).1 hyx) hyz

theorem isDefined_of_lt (h : x < y) : IsDefined x ∧ IsDefined y :=
  LawfulOrder.isDefined_of_le (le_of_lt h)

/-!
## The lesser and the greater of two
-/

theorem lesser_le_left (hx : IsDefined x) (y : num) : lesser x y ≤ x := by
  unfold lesser
  split
  · exact hx
  next hlt =>
      split
      next hy => exact le_of_not_lt hx hy hlt
      next => exact hx

theorem lesser_le_right (x : num) (hy : IsDefined y) : lesser x y ≤ y := by
  unfold lesser
  split
  next hlt => exact le_of_lt hlt
  next => exact hy

theorem left_le_greater (hx : IsDefined x) (y : num) : x ≤ greater x y := by
  unfold greater
  split
  · exact hx
  next hlt =>
      split
      next hy => exact le_of_not_lt hy hx hlt
      next => exact hx

theorem right_le_greater (x : num) (hy : IsDefined y) : y ≤ greater x y := by
  unfold greater
  split
  next hlt => exact le_of_lt hlt
  next => exact hy

theorem lesser_le_iff : lesser x y ≤ z ↔ x ≤ z ∨ y ≤ z := by
  constructor
  · intro h
    rcases lesser_eq_or x y with heq | heq
    · exact Or.inl (heq ▸ h)
    · exact Or.inr (heq ▸ h)
  · intro h
    rcases h with hx | hy
    · exact LawfulOrder.le_trans (lesser_le_left (LawfulOrder.isDefined_of_le hx).1 y) hx
    · exact LawfulOrder.le_trans (lesser_le_right x (LawfulOrder.isDefined_of_le hy).1) hy

theorem lesser_lt_iff : lesser x y < z ↔ x < z ∨ y < z := by
  constructor
  · intro h
    rcases lesser_eq_or x y with heq | heq
    · exact Or.inl (heq ▸ h)
    · exact Or.inr (heq ▸ h)
  · intro h
    rcases h with hx | hy
    · exact lt_of_le_of_lt (lesser_le_left (isDefined_of_lt hx).1 y) hx
    · exact lt_of_le_of_lt (lesser_le_right x (isDefined_of_lt hy).1) hy

theorem le_greater_iff : z ≤ greater x y ↔ z ≤ x ∨ z ≤ y := by
  constructor
  · intro h
    rcases greater_eq_or x y with heq | heq
    · exact Or.inl (heq ▸ h)
    · exact Or.inr (heq ▸ h)
  · intro h
    rcases h with hx | hy
    · exact LawfulOrder.le_trans hx (left_le_greater (LawfulOrder.isDefined_of_le hx).2 y)
    · exact LawfulOrder.le_trans hy (right_le_greater x (LawfulOrder.isDefined_of_le hy).2)

theorem lt_greater_iff : z < greater x y ↔ z < x ∨ z < y := by
  constructor
  · intro h
    rcases greater_eq_or x y with heq | heq
    · exact Or.inl (heq ▸ h)
    · exact Or.inr (heq ▸ h)
  · intro h
    rcases h with hx | hy
    · exact lt_of_lt_of_le hx (left_le_greater (isDefined_of_lt hx).2 y)
    · exact lt_of_lt_of_le hy (right_le_greater x (isDefined_of_lt hy).2)

/-!
## Alike scalars
-/

namespace Alike

theorem isDefined_iff (h : Alike x y) : IsDefined x ↔ IsDefined y := by
  rcases h with hsame | hundefined
  · exact iff_of_true (LawfulOrder.isDefined_of_le hsame.1).1 (LawfulOrder.isDefined_of_le hsame.1).2
  · exact iff_of_false hundefined.1 hundefined.2

theorem le_of_le (hx : Alike x x') (hy : Alike y y') (h : x ≤ y) : x' ≤ y' := by
  rcases LawfulOrder.isDefined_of_le h with ⟨hdefined, hdefined'⟩
  exact LawfulOrder.le_trans (hx.same hdefined).2 (LawfulOrder.le_trans h (hy.same hdefined').1)

theorem le_iff (hx : Alike x x') (hy : Alike y y') : x ≤ y ↔ x' ≤ y' :=
  ⟨hx.le_of_le hy, hx.symm.le_of_le hy.symm⟩

theorem lt_iff (hx : Alike x x') (hy : Alike y y') : x < y ↔ x' < y' := by
  rw [LawfulOrder.lt_iff_le_not_le, LawfulOrder.lt_iff_le_not_le, hx.le_iff hy, hy.le_iff hx]

theorem isFinite_iff (h : Alike x y) : IsFinite x ↔ IsFinite y :=
  and_congr ((Alike.refl _).lt_iff h) (h.lt_iff (Alike.refl _))

theorem lesser (hx : Alike x x') (hy : Alike y y') :
    Alike (Scalar.lesser x y) (Scalar.lesser x' y') := by
  unfold Scalar.lesser
  simp only [hx.lt_iff hy, hy.isDefined_iff]
  split
  · exact hx
  · split
    · exact hy
    · exact hx

theorem greater (hx : Alike x x') (hy : Alike y y') :
    Alike (Scalar.greater x y) (Scalar.greater x' y') := by
  unfold Scalar.greater
  simp only [hy.lt_iff hx, hy.isDefined_iff]
  split
  · exact hx
  · split
    · exact hy
    · exact hx

end Alike

end Order

/-!
## Arithmetic
-/

class LawfulArithmetic (num : Type) [Scalar num] : Prop extends LawfulOrder num where
  add_alike : forall {x x' y y' : num}, Alike x x' -> Alike y y' -> Alike (x + y) (x' + y')
  sub_alike : forall {x x' y y' : num}, Alike x x' -> Alike y y' -> Alike (x - y) (x' - y')
  mul_alike : forall {x x' y y' : num}, Alike x x' -> Alike y y' -> Alike (x * y) (x' * y')

/-- Operations on alike scalars have alike results.  A division may tell alike divisors apart, for
the zeros have different reciprocals, but no difference of two scalars in their order does. -/
class Lawful (num : Type) [Scalar num] : Prop extends LawfulArithmetic num where
  div_alike : forall {x x' : num}, Alike x x' -> forall y, Alike (x / y) (x' / y)
  sub_eq_of_lt : forall {x x' y y' : num}, x < y -> Alike x x' -> Alike y y' -> y - x = y' - x'
  truncate_floor_eq : forall {x x' : num}, Alike x x' -> truncate (floor x) = truncate (floor x')
  truncate_ceil_eq : forall {x x' : num}, Alike x x' -> truncate (ceil x) = truncate (ceil x')

namespace Alike

section Arithmetic

variable [LawfulArithmetic num] {x x' y y' : num}

protected theorem add (hx : Alike x x') (hy : Alike y y') : Alike (x + y) (x' + y') :=
  LawfulArithmetic.add_alike hx hy

protected theorem sub (hx : Alike x x') (hy : Alike y y') : Alike (x - y) (x' - y') :=
  LawfulArithmetic.sub_alike hx hy

protected theorem mul (hx : Alike x x') (hy : Alike y y') : Alike (x * y) (x' * y') :=
  LawfulArithmetic.mul_alike hx hy

theorem square (hx : Alike x x') : Alike (Scalar.square x) (Scalar.square x') :=
  hx.mul hx

end Arithmetic

variable [Lawful num] {x x' : num}

theorem div_right (hx : Alike x x') (y : num) : Alike (x / y) (x' / y) :=
  Lawful.div_alike hx y

end Alike

end Scalar
end LayeredPlot
