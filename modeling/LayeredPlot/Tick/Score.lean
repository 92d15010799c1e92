import LayeredPlot.Tick.Options
import LayeredPlot.Tick.Progression

/-!
# Scores of ticks

Ticks over data from `low` to `high` are scored on coverage, simplicity and
density; all ticks are equally legible.  Beside each quality stands its ceiling,
which needs less knowledge of the ticks and which no ticks exceed.  The ceilings
of whole families of ticks let a search leave a family out.
-/

namespace LayeredPlot

structure TickGoal (num : Type) where
  low : num
  high : num
  target : num
  options : TickOptions num

/-- The ticks whose step is every `skip`-th multiple of one nice step.  The rank of the nice step
counts the preferred ones before it. -/
structure StepFamily (num : Type) where
  skip : Nat
  rank : Nat
  nice : num

namespace StepFamily

variable {num : Type} [Scalar num]

@[inline] def skipped (family : StepFamily num) : num :=
  Scalar.ofNat family.skip

@[inline] def step (family : StepFamily num) (exponent : Int) : num :=
  family.skipped * family.nice * Scalar.powTen exponent

@[inline] def ticksFrom (family : StepFamily num) (count : Nat) (step : num) (start : Int) :
    Progression num :=
  let first := Scalar.ofInt start * (step / family.skipped)
  { first := first, last := first + step * (Scalar.ofNat count - 1.0), step := step }

end StepFamily

namespace TickGoal

variable {num : Type} [Scalar num]

/-- How far down its list a nice step stands, from zero to one. -/
@[inline] def rankPenalty (goal : TickGoal num) (family : StepFamily num) : num :=
  let n := goal.options.niceSteps.length
  if 1 < n then Scalar.ofNat family.rank / Scalar.ofNat (n - 1) else 0.0

def zeroTolerance : num :=
  1e-10

/-- Whether a multiple of the step that lies between the first and the last tick is zero. -/
@[inline] def hasZero (p : Progression num) : Bool :=
  let rest := p.first - p.step * Scalar.floor (p.first / p.step)
  (rest < zeroTolerance ∨ p.step - rest < zeroTolerance) ∧ p.first ≤ 0.0 ∧ 0.0 ≤ p.last

@[inline] def simplicity (goal : TickGoal num) (family : StepFamily num) (p : Progression num) :
    num :=
  1.0 - goal.rankPenalty family - family.skipped + (if hasZero p then 1.0 else 0.0)

@[inline] def simplicityCeiling (goal : TickGoal num) (family : StepFamily num) : num :=
  2.0 - goal.rankPenalty family - family.skipped

@[inline] def coverage (goal : TickGoal num) (p : Progression num) : num :=
  let range := goal.high - goal.low
  1.0 - 0.5 * (Scalar.square (goal.high - p.last) + Scalar.square (goal.low - p.first))
    / Scalar.square (0.1 * range)

@[inline] def coverageCeiling (goal : TickGoal num) (span : num) : num :=
  let range := goal.high - goal.low
  if range < span then
    1.0 - Scalar.square ((span - range) / 2.0) / Scalar.square (0.1 * range)
  else 1.0

/-- Ticks have the best density when they are as dense as the target number of ticks over data and
ticks together. -/
@[inline] def density (goal : TickGoal num) (count : Nat) (p : Progression num) : num :=
  let rate := (Scalar.ofNat count - 1.0) / (p.last - p.first)
  let targetRate :=
    (goal.target - 1.0) / (Scalar.greater p.last goal.high - Scalar.lesser p.first goal.low)
  2.0 - Scalar.greater (rate / targetRate) (targetRate / rate)

@[inline] def densityCeiling (goal : TickGoal num) (count : Nat) : num :=
  let count : num := Scalar.ofNat count
  if goal.target ≤ count then 2.0 - (count - 1.0) / (goal.target - 1.0) else 1.0

/-- The weighted sum of the qualities; every legibility is one. -/
@[inline] def weigh (goal : TickGoal num) (coverage simplicity density : num) : num :=
  let w := goal.options.weights
  w.coverage * coverage + w.simplicity * simplicity + w.density * density + w.legibility

@[inline] def score (goal : TickGoal num) (family : StepFamily num) (count : Nat)
    (p : Progression num) : num :=
  goal.weigh (goal.coverage p) (goal.simplicity family p) (goal.density count p)

@[inline] def familyCeiling (goal : TickGoal num) (family : StepFamily num) : num :=
  let w := goal.options.weights
  w.coverage + w.simplicity * goal.simplicityCeiling family + w.density + w.legibility

@[inline] def countCeiling (goal : TickGoal num) (family : StepFamily num) (count : Nat) : num :=
  let w := goal.options.weights
  w.coverage + w.simplicity * goal.simplicityCeiling family
    + w.density * goal.densityCeiling count + w.legibility

@[inline] def stepCeiling (goal : TickGoal num) (family : StepFamily num) (count : Nat)
    (step : num) : num :=
  goal.weigh (goal.coverageCeiling (step * (Scalar.ofNat count - 1.0)))
    (goal.simplicityCeiling family) (goal.densityCeiling count)

abbrev Encloses (goal : TickGoal num) (p : Progression num) : Prop :=
  p.first ≤ goal.low ∧ goal.high ≤ p.last

/-- Ticks that can be chosen: their step is not lost in rounding at either end, and they reach to
both ends of the data where that is asked for. -/
abbrev Admits (goal : TickGoal num) (p : Progression num) : Prop :=
  Progression.Advances p.first p.step ∧ Progression.Advances p.last p.step
    ∧ (goal.options.loose = false ∨ goal.Encloses p)

end TickGoal
end LayeredPlot
