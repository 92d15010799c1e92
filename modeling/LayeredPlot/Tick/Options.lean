import LayeredPlot.Error
import LayeredPlot.Number.Scalar

/-!
# Tick options

The choice of ticks prefers steps that are nice multiples of a power of ten, and
weighs how well ticks cover the data, how simple they are, how dense they are
and how legible they are.
-/

namespace LayeredPlot

structure Weights (num : Type) where
  coverage : num
  simplicity : num
  density : num
  legibility : num
  deriving DecidableEq, Repr

structure TickOptions (num : Type) where
  /-- Nice multiples of powers of ten, the most preferred one first. -/
  niceSteps : List num
  weights : Weights num
  /-- Whether the ticks have to reach to both ends of the data. -/
  loose : Bool
  deriving DecidableEq, Repr

namespace TickOptions

variable {num : Type} [Scalar num]

def standardWeights : Weights num where
  coverage := 0.2
  simplicity := 0.25
  density := 0.5
  legibility := 0.05

def standard : TickOptions num where
  niceSteps := [1.0, 5.0, 2.0, 2.5, 4.0, 3.0]
  weights := standardWeights
  loose := false

abbrev IsNice (q : num) : Prop :=
  Scalar.IsFinite q ∧ 0.0 < q

/-- The first reason for which options cannot guide a search. -/
def fault? (options : TickOptions num) : Option (TickOptionFault num) :=
  if options.niceSteps.isEmpty then some .noNiceSteps
  else (options.niceSteps.find? fun q => ¬ IsNice q).map .badNiceStep

end TickOptions
end LayeredPlot
