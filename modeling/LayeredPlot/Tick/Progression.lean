import LayeredPlot.Number.Scalar

/-!
# Progressions

The ticks of an axis are evenly spaced: they go from a first one to a last one
with a constant step.
-/

namespace LayeredPlot

/-- The evenly spaced ticks `first, first + step, .., last`. -/
structure Progression (num : Type) where
  first : num
  last : num
  step : num
  deriving DecidableEq, Repr

namespace Progression

variable {num : Type} [Scalar num]

abbrev Advances (x step : num) : Prop :=
  x < x + step

/-- The walk `x, x + step, ..` as far as `last`.  It ends early where a sum does not move on, and
visits no more ticks than the first argument allows. -/
def walk (last step : num) : Nat -> num -> List num
  | 0, _ => []
  | bound + 1, x =>
      if x ≤ last then
        let next := x + step
        x :: if next ≤ x then [] else walk last step bound next
      else []

def ticks (p : Progression num) : List num :=
  if 0.0 < p.step then walk p.last p.step (Scalar.strides p.first p.last p.step) p.first else []

end Progression
end LayeredPlot
