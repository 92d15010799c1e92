import LayeredPlot.Tick.Search

/-!
# Candidates for ticks

All ticks that a search goes through, in its order and with their scores, when
it leaves nothing out.  The best of them is the first with the highest score.
An exhaustive search goes through all of them: it runs the loops of the search
without leaving any of them early.
-/

namespace LayeredPlot

structure Candidate (num : Type) where
  ticks : Progression num
  score : num
  deriving DecidableEq, Repr

def upFrom (first : Int) (n : Nat) : List Int :=
  (List.range n).map fun i => first + Int.ofNat i

namespace TickGoal

variable {num : Type} [Scalar num]

def candidatesAt (goal : TickGoal num) (family : StepFamily num) (count : Nat) (exponent : Int) :
    List (Candidate num) :=
  let step := family.step exponent
  let first := goal.firstStart family count step
  let last := goal.lastStart family step
  (upFrom first (last + 1 - first).toNat).filterMap fun start =>
    let p := family.ticksFrom count step start
    if goal.Admits p then some { ticks := p, score := goal.score family count p } else none

def candidatesOf (goal : TickGoal num) (origin : StepFamily num -> Nat -> Int)
    (family : StepFamily num) (count : Nat) : List (Candidate num) :=
  let first := origin family count
  (upFrom first (exponentBound - first).toNat).flatMap (goal.candidatesAt family count)

def candidatesFrom (goal : TickGoal num) (origin : StepFamily num -> Nat -> Int) :
    List (Candidate num) :=
  goal.families.flatMap fun family => counts.flatMap (goal.candidatesOf origin family)

def exhaustCount (goal : TickGoal num) (origin : StepFamily num -> Nat -> Int)
    (family : StepFamily num) (inc : Incumbent num) (count : Nat) : Incumbent num :=
  let first := origin family count
  foldUp (goal.visitExponent family count) (exponentBound - first).toNat first inc

def exhaustFrom (goal : TickGoal num) (origin : StepFamily num -> Nat -> Int) : Incumbent num :=
  goal.families.foldl (fun inc family => counts.foldl (goal.exhaustCount origin family) inc)
    Incumbent.start

end TickGoal

namespace Incumbent

variable {num : Type} [Scalar num]

def offerAll (inc : Incumbent num) (cs : List (Candidate num)) : Incumbent num :=
  cs.foldl (fun inc c => inc.offer c.ticks c.score) inc

end Incumbent

namespace Candidate

variable {num : Type} [Scalar num]

/-- The first candidate of a list that has the highest score, where that is enough to be chosen. -/
def IsFirstBest (c : Candidate num) (cs : List (Candidate num)) : Prop :=
  exists before after, cs = before ++ c :: after ∧ Incumbent.start.score < c.score
    ∧ (forall d, d ∈ before -> ¬ c.score ≤ d.score)
    ∧ (forall d, d ∈ after -> ¬ c.score < d.score)

end Candidate

namespace TickOptions

variable {num : Type} [Scalar num]

def chooseTicksExhaustively (options : TickOptions num)
    (origin : TickGoal num -> StepFamily num -> Nat -> Int) (low high : num) (target : Nat) :
    Except (PlotError num) (Progression num) := do
  let goal <- options.goal low high target
  outcome low high (goal.exhaustFrom (origin goal))

end TickOptions
end LayeredPlot
