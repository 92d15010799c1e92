import LayeredPlot.Tick.Score

/-!
# The search for ticks

The search goes through all ticks family by family, by their number, by the
power of ten of their step and by their start, and keeps the first of those with
the highest score.  It leaves a level of this enumeration as soon as the ceiling
of what comes next is below the best score so far.
-/

namespace LayeredPlot

variable {state item : Type}

/-- Folds over a list and leaves it before the first item at which `stop` holds. -/
@[specialize] def foldUntil (stop : state -> item -> Bool) (visit : state -> item -> state) :
    state -> List item -> state
  | s, [] => s
  | s, x :: xs => if stop s x then s else foldUntil stop visit (visit s x) xs

@[specialize] def foldUpUntil (stop : state -> Int -> Bool) (visit : state -> Int -> state) :
    Nat -> Int -> state -> state
  | 0, _, s => s
  | n + 1, z, s => if stop s z then s else foldUpUntil stop visit n (z + 1) (visit s z)

@[specialize] def foldUp (visit : state -> Int -> state) : Nat -> Int -> state -> state
  | 0, _, s => s
  | n + 1, z, s => foldUp visit n (z + 1) (visit s z)

structure Incumbent (num : Type) where
  best : Option (Progression num)
  score : num

namespace Incumbent

variable {num : Type} [Scalar num]

/-- Ticks have to score more than this to be chosen at all. -/
def start : Incumbent num where
  best := none
  score := 0.0 - 2.0

@[inline] def offer (inc : Incumbent num) (p : Progression num) (score : num) : Incumbent num :=
  if inc.score < score then { best := some p, score := score } else inc

end Incumbent

namespace TickGoal

variable {num : Type} [Scalar num]

def countBound : Nat := 100

def exponentBound : Int := 100

/-- All families, the ones that skip fewest multiples first and by preference among those. -/
def families (goal : TickGoal num) : List (StepFamily num) :=
  (List.range' 1 (countBound - 1)).flatMap fun skip =>
    goal.options.niceSteps.zipIdx.map fun (nice, rank) => ⟨skip, rank, nice⟩

def counts : List Nat :=
  List.range' 2 (countBound - 2)

@[inline] def firstExponent (goal : TickGoal num) (family : StepFamily num) (count : Nat) : Int :=
  Scalar.decade ((goal.high - goal.low) / (Scalar.ofNat count + 1.0) / family.skipped / family.nice)

/-- The first multiple of the nice step at which ticks can start and reach the data.  Products of
integers are taken as they are, where a word of 64 bits would not hold all of them; the theorem
`search_stays_within_words` says over which data a word holds them. -/
@[inline] def firstStart (goal : TickGoal num) (family : StepFamily num) (count : Nat)
    (step : num) : Int :=
  Scalar.truncate (Scalar.floor (goal.high / step)) * family.skip
    - (Int.ofNat count - 1) * family.skip

/-- The last multiple of the nice step at which ticks can start and reach the data, an integer without
a bound as the first one. -/
@[inline] def lastStart (goal : TickGoal num) (family : StepFamily num) (step : num) : Int :=
  Scalar.truncate (Scalar.ceil (goal.low / step)) * family.skip

@[inline] def visitStart (goal : TickGoal num) (family : StepFamily num) (count : Nat) (step : num)
    (inc : Incumbent num) (start : Int) : Incumbent num :=
  let p := family.ticksFrom count step start
  if goal.Admits p then inc.offer p (goal.score family count p) else inc

@[specialize] def visitExponent (goal : TickGoal num) (family : StepFamily num) (count : Nat)
    (inc : Incumbent num) (exponent : Int) : Incumbent num :=
  let step := family.step exponent
  let first := goal.firstStart family count step
  let last := goal.lastStart family step
  foldUp (goal.visitStart family count step) (last + 1 - first).toNat first inc

@[inline] def leavesExponent (goal : TickGoal num) (family : StepFamily num) (count : Nat)
    (inc : Incumbent num) (exponent : Int) : Bool :=
  goal.stepCeiling family count (family.step exponent) < inc.score

/-- Offers the ticks of a family with a number of ticks.  The origin says which power of ten is the
first one. -/
@[specialize] def visitCount (goal : TickGoal num) (origin : StepFamily num -> Nat -> Int)
    (family : StepFamily num) (inc : Incumbent num) (count : Nat) : Incumbent num :=
  let first := origin family count
  foldUpUntil (goal.leavesExponent family count) (goal.visitExponent family count)
    (exponentBound - first).toNat first inc

@[inline] def leavesCount (goal : TickGoal num) (family : StepFamily num) (inc : Incumbent num)
    (count : Nat) : Bool :=
  goal.countCeiling family count < inc.score

@[specialize] def visitFamily (goal : TickGoal num) (origin : StepFamily num -> Nat -> Int)
    (inc : Incumbent num) (family : StepFamily num) : Incumbent num :=
  foldUntil (goal.leavesCount family) (goal.visitCount origin family) inc counts

@[inline] def leavesFamily (goal : TickGoal num) (inc : Incumbent num)
    (family : StepFamily num) : Bool :=
  goal.familyCeiling family < inc.score

@[specialize] def searchFrom (goal : TickGoal num) (origin : StepFamily num -> Nat -> Int) :
    Incumbent num :=
  foldUntil goal.leavesFamily (goal.visitFamily origin) Incumbent.start goal.families

end TickGoal

namespace TickOptions

variable {num : Type} [Scalar num]

/-- The goal of finding ticks over data from `low` to `high` when `target` of them are aimed at.
There is one if the options can guide a search and the data have an extent. -/
def goal (options : TickOptions num) (low high : num) (target : Nat) :
    Except (PlotError num) (TickGoal num) :=
  if target < 2 then throw (.invalidTickOptions (.targetBelowTwo target))
  else match options.fault? with
  | some fault => throw (.invalidTickOptions fault)
  | none =>
      if Scalar.IsFinite low ∧ Scalar.IsFinite high ∧ low < high then
        pure { low := low, high := high, target := Scalar.ofNat target, options := options }
      else throw (.ticksExhausted low high)

@[inline] def outcome (low high : num) (inc : Incumbent num) :
    Except (PlotError num) (Progression num) :=
  match inc.best with
  | some p => pure p
  | none => throw (.ticksExhausted low high)

@[specialize] def chooseTicksFrom (options : TickOptions num)
    (origin : TickGoal num -> StepFamily num -> Nat -> Int) (low high : num) (target : Nat) :
    Except (PlotError num) (Progression num) := do
  let goal <- options.goal low high target
  outcome low high (goal.searchFrom (origin goal))

@[specialize] def chooseTicks (options : TickOptions num) (low high : num) (target : Nat) :
    Except (PlotError num) (Progression num) :=
  options.chooseTicksFrom TickGoal.firstExponent low high target

end TickOptions
end LayeredPlot
