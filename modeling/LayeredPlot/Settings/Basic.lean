import LayeredPlot.Tick.Options

/-!
# Settings

What a plot leaves to the library is decided by its settings: how far scales
reach beyond the data, and how ticks are chosen.
-/

namespace LayeredPlot

structure Settings (num : Type) where
  /-- How far a declared scale without limits reaches beyond the data, as a part of their span. -/
  margin : num
  /-- How far a scale that is not declared reaches beyond the data of each layer. -/
  inferredMargin : num
  targetTicks : Nat
  ticks : TickOptions num
  deriving DecidableEq, Repr

namespace Settings

variable {num : Type} [Scalar num]

def standard : Settings num where
  margin := 0.05
  inferredMargin := 0.0
  targetTicks := 5
  ticks := TickOptions.standard

end Settings
end LayeredPlot
