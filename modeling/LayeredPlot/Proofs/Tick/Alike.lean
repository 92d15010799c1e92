import LayeredPlot.Proofs.Number.Laws
import LayeredPlot.Proofs.Outcome
import LayeredPlot.Proofs.Tick.Selection

/-!
# Ticks over alike data

A search for ticks asks of the ends of the data only what alike numbers have in common.  So it
goes through the same ticks over alike data, gives them alike scores, leaves out the same ones and
chooses the same.
-/

namespace LayeredPlot

theorem foldUntil_rel {state other item : Type} {R : state -> other -> Prop}
    {stop : state -> item -> Bool} {stop' : other -> item -> Bool}
    {visit : state -> item -> state} {visit' : other -> item -> other}
    (hstop : forall s t x, R s t -> stop s x = stop' t x)
    (hvisit : forall s t x, R s t -> R (visit s x) (visit' t x))
    {s : state} {t : other} (h : R s t) (xs : List item) :
    R (foldUntil stop visit s xs) (foldUntil stop' visit' t xs) := by
  induction xs generalizing s t with
  | nil => exact h
  | cons x rest ih =>
      rw [foldUntil, foldUntil, hstop s t x h]
      split
      · exact h
      · exact ih (hvisit s t x h)

open Scalar

variable {num : Type} [Scalar num]

def Incumbent.Alike (inc other : Incumbent num) : Prop :=
  inc.best = other.best ∧ Scalar.Alike inc.score other.score

protected theorem Incumbent.Alike.refl (inc : Incumbent num) : inc.Alike inc :=
  ⟨rfl, Scalar.Alike.refl _⟩

theorem Incumbent.Alike.offer [LawfulOrder num] {inc other : Incumbent num} (h : inc.Alike other)
    (p : Progression num) {score score' : num} (hscore : Scalar.Alike score score') :
    (inc.offer p score).Alike (other.offer p score') := by
  unfold Incumbent.offer
  simp only [h.2.lt_iff hscore]
  split
  · exact ⟨rfl, hscore⟩
  · exact h

namespace TickGoal

structure Alike (goal other : TickGoal num) : Prop where
  low : Scalar.Alike goal.low other.low
  high : Scalar.Alike goal.high other.high
  target : goal.target = other.target
  options : goal.options = other.options
  low_lt_high : goal.low < goal.high

namespace Alike

variable {goal other : TickGoal num}

/-!
## What does not depend on the data
-/

theorem families_eq (h : goal.Alike other) : goal.families = other.families := by
  unfold families
  rw [h.options]

theorem simplicity_eq (h : goal.Alike other) : goal.simplicity = other.simplicity := by
  funext family p
  unfold TickGoal.simplicity rankPenalty
  rw [h.options]

theorem simplicityCeiling_eq (h : goal.Alike other) :
    goal.simplicityCeiling = other.simplicityCeiling := by
  funext family
  unfold TickGoal.simplicityCeiling rankPenalty
  rw [h.options]

theorem densityCeiling_eq (h : goal.Alike other) : goal.densityCeiling = other.densityCeiling := by
  funext count
  unfold TickGoal.densityCeiling
  rw [h.target]

theorem familyCeiling_eq (h : goal.Alike other) : goal.familyCeiling = other.familyCeiling := by
  funext family
  unfold familyCeiling
  rw [h.options, h.simplicityCeiling_eq]

theorem countCeiling_eq (h : goal.Alike other) : goal.countCeiling = other.countCeiling := by
  funext family count
  unfold countCeiling
  rw [h.options, h.simplicityCeiling_eq, h.densityCeiling_eq]

variable [Lawful num]

theorem range_eq (h : goal.Alike other) : goal.high - goal.low = other.high - other.low :=
  Lawful.sub_eq_of_lt h.low_lt_high h.low h.high

/-!
## What the search goes through
-/

theorem firstExponent_eq (h : goal.Alike other) : goal.firstExponent = other.firstExponent := by
  funext family count
  unfold firstExponent
  rw [h.range_eq]

theorem firstStart_eq (h : goal.Alike other) : goal.firstStart = other.firstStart := by
  funext family count step
  unfold firstStart
  rw [Lawful.truncate_floor_eq (h.high.div_right step)]

theorem lastStart_eq (h : goal.Alike other) : goal.lastStart = other.lastStart := by
  funext family step
  unfold lastStart
  rw [Lawful.truncate_ceil_eq (h.low.div_right step)]

theorem admits_iff (h : goal.Alike other) (p : Progression num) :
    goal.Admits p ↔ other.Admits p := by
  have hencloses : goal.Encloses p ↔ other.Encloses p :=
    and_congr ((Scalar.Alike.refl _).le_iff h.low) (h.high.le_iff (Scalar.Alike.refl _))
  unfold Admits
  rw [h.options, hencloses]

/-!
## Scores
-/

theorem coverage (h : goal.Alike other) (p : Progression num) :
    Scalar.Alike (goal.coverage p) (other.coverage p) := by
  have hlast := (h.high.sub (Scalar.Alike.refl p.last)).square
  have hfirst := (h.low.sub (Scalar.Alike.refl p.first)).square
  have hmiss := (Scalar.Alike.refl (0.5 : num)).mul (hlast.add hfirst)
  unfold TickGoal.coverage
  rw [h.range_eq]
  exact (Scalar.Alike.refl _).sub (hmiss.div_right _)

theorem density_eq (h : goal.Alike other) : goal.density = other.density := by
  funext count p
  have hdefined := LawfulOrder.isDefined_of_le (le_of_lt h.low_lt_high)
  have hlow := lesser_le_right p.first hdefined.1
  have hhigh := right_le_greater p.last hdefined.2
  -- The data have an extent, and so has what is around them and the ticks.
  have hhull : Scalar.lesser p.first goal.low < Scalar.greater p.last goal.high :=
    lt_of_lt_of_le (lt_of_le_of_lt hlow h.low_lt_high) hhigh
  unfold TickGoal.density
  rw [h.target, Lawful.sub_eq_of_lt hhull ((Scalar.Alike.refl p.first).lesser h.low)
    ((Scalar.Alike.refl p.last).greater h.high)]

theorem score (h : goal.Alike other) (family : StepFamily num) (count : Nat)
    (p : Progression num) :
    Scalar.Alike (goal.score family count p) (other.score family count p) := by
  have hweighted := (Scalar.Alike.refl other.options.weights.coverage).mul (h.coverage p)
  unfold TickGoal.score weigh
  rw [h.options, h.simplicity_eq, h.density_eq]
  exact ((hweighted.add (Scalar.Alike.refl _)).add (Scalar.Alike.refl _)).add
    (Scalar.Alike.refl _)

theorem stepCeiling_eq (h : goal.Alike other) : goal.stepCeiling = other.stepCeiling := by
  funext family count step
  unfold stepCeiling weigh coverageCeiling
  rw [h.options, h.range_eq, h.simplicityCeiling_eq, h.densityCeiling_eq]

/-!
## The search
-/

variable {inc inc' : Incumbent num}

theorem visitStart (h : goal.Alike other) (hinc : inc.Alike inc') (family : StepFamily num)
    (count : Nat) (step : num) (start : Int) :
    (goal.visitStart family count step inc start).Alike
      (other.visitStart family count step inc' start) := by
  unfold TickGoal.visitStart
  simp only [h.admits_iff]
  split
  · exact hinc.offer _ (h.score family count _)
  · exact hinc

theorem visitExponent (h : goal.Alike other) (hinc : inc.Alike inc') (family : StepFamily num)
    (count : Nat) (exponent : Int) :
    (goal.visitExponent family count inc exponent).Alike
      (other.visitExponent family count inc' exponent) := by
  unfold TickGoal.visitExponent
  simp only [h.firstStart_eq, h.lastStart_eq, foldUp_eq_foldl]
  apply List.foldl_rel hinc
  intro start _ inc inc' hinc
  exact h.visitStart hinc family count _ start

theorem visitCount (h : goal.Alike other) (hinc : inc.Alike inc')
    (origin : StepFamily num -> Nat -> Int) (family : StepFamily num) (count : Nat) :
    (goal.visitCount origin family inc count).Alike
      (other.visitCount origin family inc' count) := by
  unfold TickGoal.visitCount
  simp only [foldUpUntil_eq_foldUntil]
  apply foldUntil_rel (R := Incumbent.Alike) _ _ hinc
  · intro inc inc' exponent hinc
    unfold leavesExponent
    rw [h.stepCeiling_eq]
    simp only [(Scalar.Alike.refl _).lt_iff hinc.2]
  · intro inc inc' exponent hinc
    exact h.visitExponent hinc family count exponent

theorem visitFamily (h : goal.Alike other) (hinc : inc.Alike inc')
    (origin : StepFamily num -> Nat -> Int) (family : StepFamily num) :
    (goal.visitFamily origin inc family).Alike (other.visitFamily origin inc' family) := by
  apply foldUntil_rel (R := Incumbent.Alike) _ _ hinc
  · intro inc inc' count hinc
    unfold leavesCount
    rw [h.countCeiling_eq]
    simp only [(Scalar.Alike.refl _).lt_iff hinc.2]
  · intro inc inc' count hinc
    exact h.visitCount hinc origin family count

theorem searchFrom (h : goal.Alike other) (origin : StepFamily num -> Nat -> Int) :
    (goal.searchFrom origin).Alike (other.searchFrom origin) := by
  unfold TickGoal.searchFrom
  rw [h.families_eq]
  apply foldUntil_rel (R := Incumbent.Alike) _ _ (Incumbent.Alike.refl _)
  · intro inc inc' family hinc
    unfold leavesFamily
    rw [h.familyCeiling_eq]
    simp only [(Scalar.Alike.refl _).lt_iff hinc.2]
  · intro inc inc' family hinc
    exact h.visitFamily hinc origin family

end Alike
end TickGoal

/-!
## The choice
-/

namespace TickOptions

variable [Lawful num] {options : TickOptions num} {low low' high high' : num} {target : Nat}

theorem exists_goal_eq_ok (hlow : Scalar.Alike low low') (hhigh : Scalar.Alike high high')
    {goal : TickGoal num} (h : options.goal low high target = .ok goal) :
    exists other, options.goal low' high' target = .ok other ∧ goal.Alike other := by
  unfold TickOptions.goal at h ⊢
  split at h
  · exact absurd h throw_ne_ok
  next htarget =>
      rw [if_neg htarget]
      split at h
      · exact absurd h throw_ne_ok
      next =>
          split at h
          next hrange =>
              rcases hrange with ⟨hfinite, hfinite', hlt⟩
              rw [if_pos ⟨hlow.isFinite_iff.mp hfinite, hhigh.isFinite_iff.mp hfinite',
                (hlow.lt_iff hhigh).mp hlt⟩]
              cases pure_eq_ok.mp h
              exact ⟨_, rfl, hlow, hhigh, rfl, rfl, hlt⟩
          next => exact absurd h throw_ne_ok

theorem chooseTicks_eq_ok (hlow : Scalar.Alike low low') (hhigh : Scalar.Alike high high')
    {p : Progression num} (h : options.chooseTicks low high target = .ok p) :
    options.chooseTicks low' high' target = .ok p := by
  rcases bind_eq_ok.mp h with ⟨goal, hgoal, houtcome⟩
  rcases exists_goal_eq_ok hlow hhigh hgoal with ⟨other, hother, halike⟩
  have hbest : (goal.searchFrom goal.firstExponent).best
      = (other.searchFrom other.firstExponent).best := by
    rw [halike.firstExponent_eq]
    exact (halike.searchFrom _).1
  refine bind_eq_ok.mpr ⟨other, hother, ?_⟩
  unfold outcome at houtcome ⊢
  rw [← hbest]
  split at houtcome
  · exact houtcome
  · exact absurd houtcome throw_ne_ok

end TickOptions
end LayeredPlot
