/-!
# Scalars

Ticks, limits, scales and pictures are computed once and for all over a type of
scalars.  Two types are scalars: the doubles a plot is drawn with, and the exact
numbers that results about plots are stated over.  A scalar type has four
arithmetic operations, an order in which an undefined scalar is comparable with
nothing, two infinite scalars, and the few transcendental operations that the
choice of ticks needs.
-/

namespace LayeredPlot

/-- The operations on numbers that plots are computed with. -/
class Scalar (num : Type)
    extends Add num, Sub num, Mul num, Div num, LE num, LT num, OfScientific num where
  decideLE : forall x y : num, Decidable (x ≤ y)
  decideLT : forall x y : num, Decidable (x < y)
  ofInt : Int -> num
  undefined : num
  infinite : num
  negInfinite : num
  floor : num -> num
  ceil : num -> num
  /-- The integer part, clamped to the integers the type can convert to. -/
  truncate : num -> Int
  powTen : Int -> num
  /-- The least exponent whose power of ten is not below a positive scalar, as closely as the
  type can tell. -/
  decade : num -> Int
  /-- How many scalars a walk from the first to the second with the third as its stride can
  visit at most. -/
  strides : num -> num -> num -> Nat

namespace Scalar

variable {num : Type} [Scalar num]

attribute [reducible, instance] decideLE decideLT

@[inline] def ofNat (n : Nat) : num :=
  ofInt (Int.ofNat n)

abbrev IsFinite (x : num) : Prop :=
  negInfinite < x ∧ x < infinite

/-- An undefined scalar is the one that is not comparable with itself. -/
abbrev IsDefined (x : num) : Prop :=
  x ≤ x

abbrev Same (x y : num) : Prop :=
  x ≤ y ∧ y ≤ x

/-- The lesser of two scalars, the second on a tie; an undefined scalar gives way to the other. -/
@[inline] def lesser (x y : num) : num :=
  if x < y then x else if IsDefined y then y else x

@[inline] def greater (x y : num) : num :=
  if y < x then x else if IsDefined y then y else x

@[inline] def square (x : num) : num :=
  x * x

@[inline] def magnitude (x : num) : num :=
  if x < 0.0 then 0.0 - x else x

end Scalar
end LayeredPlot
