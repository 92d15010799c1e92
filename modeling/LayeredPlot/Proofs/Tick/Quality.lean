import LayeredPlot.Proofs.Number.Exact
import LayeredPlot.Tick.Search
import Mathlib.Tactic.FieldSimp
import Mathlib.Tactic.GCongr
import Mathlib.Tactic.Positivity
import Mathlib.Tactic.Ring

/-!
# Qualities of ticks over rational data

Over rational data with an extent the qualities of ticks and their ceilings are
rational.  No ticks exceed a ceiling, and a ceiling does not rise when ticks
span more, when there are more of them, or when their family stands later in the
search.
-/

namespace LayeredPlot

open Exact

/-- A goal over rational data with an extent, aiming at two ticks or more, with options that can
guide a search. -/
structure RationalGoal where
  low : Rat
  high : Rat
  target : Nat
  options : TickOptions Exact
  low_lt_high : low < high
  two_le_target : 2 ≤ target
  valid : options.fault? = none

structure TickWindow where
  first : Rat
  step : Rat
  count : Nat
  step_pos : 0 < step
  two_le_count : 2 ≤ count

namespace TickWindow

variable (w : TickWindow)

def span : Rat :=
  w.step * (w.count - 1)

def last : Rat :=
  w.first + w.span

def ticks : Progression Exact where
  first := value w.first
  last := value w.last
  step := value w.step

theorem one_le_gaps : (1 : Rat) ≤ w.count - 1 := by
  have h : ((2 : Nat) : Rat) ≤ w.count := Nat.cast_le.mpr w.two_le_count
  push_cast at h
  linarith

theorem span_pos : 0 < w.span :=
  mul_pos w.step_pos (lt_of_lt_of_le one_pos w.one_le_gaps)

theorem first_lt_last : w.first < w.last :=
  lt_add_of_pos_right w.first w.span_pos

end TickWindow

namespace RationalGoal

variable (goal : RationalGoal)

def toGoal : TickGoal Exact where
  low := value goal.low
  high := value goal.high
  target := value goal.target
  options := goal.options

theorem goal_eq_toGoal :
    goal.options.goal (value goal.low) (value goal.high) goal.target = .ok goal.toGoal := by
  have htarget : ¬ goal.target < 2 := not_lt.mpr goal.two_le_target
  have hextent : Scalar.IsFinite (value goal.low) ∧ Scalar.IsFinite (value goal.high)
      ∧ value goal.low < value goal.high :=
    ⟨isFinite_iff.mpr ⟨goal.low, rfl⟩, isFinite_iff.mpr ⟨goal.high, rfl⟩,
      value_lt_value.mpr goal.low_lt_high⟩
  simp only [TickOptions.goal, if_neg htarget, goal.valid, if_pos hextent]
  rfl

theorem exists_toGoal_eq {options : TickOptions Exact} {low high : Exact} {target : Nat}
    {found : TickGoal Exact} (h : options.goal low high target = .ok found) :
    exists goal : RationalGoal, goal.toGoal = found ∧ goal.options = options
      ∧ low = value goal.low ∧ high = value goal.high ∧ target = goal.target := by
  unfold TickOptions.goal at h
  split at h
  · cases h
  next htarget =>
      split at h
      · cases h
      next hvalid =>
          split at h
          next hextent =>
              rcases hextent with ⟨hlow, hhigh, hlt⟩
              rcases isFinite_iff.mp hlow with ⟨l, rfl⟩
              rcases isFinite_iff.mp hhigh with ⟨u, rfl⟩
              cases h
              exact ⟨⟨l, u, target, options, value_lt_value.mp hlt, not_lt.mp htarget, hvalid⟩,
                rfl, rfl, rfl, rfl, rfl⟩
          · cases h

def range : Rat :=
  goal.high - goal.low

theorem range_pos : 0 < goal.range :=
  sub_pos.mpr goal.low_lt_high

theorem one_le_target_gaps : (1 : Rat) ≤ goal.target - 1 := by
  have h : ((2 : Nat) : Rat) ≤ goal.target := Nat.cast_le.mpr goal.two_le_target
  push_cast at h
  linarith

/-!
## Coverage
-/

def coverage (w : TickWindow) : Rat :=
  1 - 1 / 2 * ((goal.high - w.last) ^ 2 + (goal.low - w.first) ^ 2) / (1 / 10 * goal.range) ^ 2

def coverageCeiling (span : Rat) : Rat :=
  if goal.range < span then 1 - ((span - goal.range) / 2) ^ 2 / (1 / 10 * goal.range) ^ 2 else 1

theorem tenth_range_sq_pos : 0 < (1 / 10 * goal.range) ^ 2 := by
  have h := goal.range_pos
  positivity

theorem toGoal_coverage (w : TickWindow) :
    goal.toGoal.coverage w.ticks = value (goal.coverage w) := by
  have h := goal.tenth_range_sq_pos.ne'
  simp only [range] at h
  simp only [TickGoal.coverage, toGoal, TickWindow.ticks, one_eq, half_eq, tenth_eq, value_sub,
    value_mul, value_add, square_value, value_div _ h]
  rfl

theorem toGoal_coverageCeiling (span : Rat) :
    goal.toGoal.coverageCeiling (value span) = value (goal.coverageCeiling span) := by
  have h := goal.tenth_range_sq_pos.ne'
  simp only [range] at h
  have htwo : (2 : Rat) ≠ 0 := two_ne_zero
  simp only [TickGoal.coverageCeiling, coverageCeiling, toGoal, range, one_eq, two_eq, tenth_eq,
    value_sub, value_mul, value_div _ htwo, square_value, value_div _ h, value_lt_value]
  exact (apply_ite value _ _ _).symm

/-- The two gaps between the ends of ticks and the ends of data add up to what ticks span beyond
the data, and the sum of their squares is least if they are equal. -/
theorem coverage_le_ceiling (w : TickWindow) : goal.coverage w ≤ goal.coverageCeiling w.span := by
  have hpos := goal.tenth_range_sq_pos
  unfold coverage coverageCeiling
  split
  · have hsquares : ((w.span - goal.range) / 2) ^ 2
        ≤ 1 / 2 * ((goal.high - w.last) ^ 2 + (goal.low - w.first) ^ 2) := by
      simp only [TickWindow.last, range]
      nlinarith [sq_nonneg ((goal.high - (w.first + w.span)) + (goal.low - w.first))]
    have hquotients := div_le_div_of_nonneg_right hsquares hpos.le
    linarith
  · have hnonneg : 0 ≤ 1 / 2 * ((goal.high - w.last) ^ 2 + (goal.low - w.first) ^ 2)
        / (1 / 10 * goal.range) ^ 2 := by
      positivity
    linarith

theorem coverageCeiling_le_one (span : Rat) : goal.coverageCeiling span ≤ 1 := by
  unfold coverageCeiling
  split
  · exact sub_le_self 1 (by positivity)
  · exact le_refl 1

theorem coverageCeiling_anti {s t : Rat} (h : s ≤ t) :
    goal.coverageCeiling t ≤ goal.coverageCeiling s := by
  by_cases hs : goal.range < s
  · have ht : goal.range < t := lt_of_lt_of_le hs h
    have hpos := goal.tenth_range_sq_pos
    have hsub : 0 ≤ (s - goal.range) / 2 := by linarith
    rw [coverageCeiling, coverageCeiling, if_pos hs, if_pos ht]
    gcongr
  · calc
      goal.coverageCeiling t ≤ 1 := goal.coverageCeiling_le_one t
      _ = goal.coverageCeiling s := by rw [coverageCeiling, if_neg hs]

/-!
## Simplicity
-/

def penalty (rank : Nat) : Rat :=
  if 1 < goal.options.niceSteps.length then
    (rank : Rat) / ((goal.options.niceSteps.length - 1 : Nat) : Rat)
  else 0

def rest (w : TickWindow) : Rat :=
  w.first - w.step * ⌊w.first / w.step⌋

theorem hasZero_ticks_iff (w : TickWindow) :
    TickGoal.hasZero w.ticks = true ↔
      (rest w < 1 / 10 ^ 10 ∨ w.step - rest w < 1 / 10 ^ 10) ∧ w.first ≤ 0 ∧ 0 ≤ w.last := by
  have htolerance : (TickGoal.zeroTolerance : Exact) = value (1 / 10 ^ 10) := decimal_eq 1 10
  unfold TickGoal.hasZero rest
  simp only [TickWindow.ticks, value_div _ w.step_pos.ne', floor_value, value_mul, value_sub,
    htolerance, zero_eq, value_lt_value, value_le_value, decide_eq_true_eq]

def zeroBonus (w : TickWindow) : Rat :=
  if TickGoal.hasZero w.ticks then 1 else 0

def simplicity (family : StepFamily Exact) (w : TickWindow) : Rat :=
  1 - goal.penalty family.rank - family.skip + zeroBonus w

def simplicityCeiling (family : StepFamily Exact) : Rat :=
  2 - goal.penalty family.rank - family.skip

theorem toGoal_rankPenalty (family : StepFamily Exact) :
    goal.toGoal.rankPenalty family = value (goal.penalty family.rank) := by
  simp only [TickGoal.rankPenalty, penalty, toGoal, ofNat_eq, zero_eq]
  split
  next h =>
      have hne : ((goal.options.niceSteps.length - 1 : Nat) : Rat) ≠ 0 :=
        Nat.cast_ne_zero.mpr (by omega)
      rw [value_div _ hne]
  next => rfl

theorem toGoal_simplicity (family : StepFamily Exact) (w : TickWindow) :
    goal.toGoal.simplicity family w.ticks = value (goal.simplicity family w) := by
  simp only [TickGoal.simplicity, StepFamily.skipped, toGoal_rankPenalty, one_eq, zero_eq,
    ofNat_eq, value_sub, simplicity, zeroBonus]
  split
  · rw [value_add]
  · rw [value_add]

theorem toGoal_simplicityCeiling (family : StepFamily Exact) :
    goal.toGoal.simplicityCeiling family = value (goal.simplicityCeiling family) := by
  simp only [TickGoal.simplicityCeiling, StepFamily.skipped, toGoal_rankPenalty, two_eq, ofNat_eq,
    value_sub, simplicityCeiling]

theorem simplicity_le_ceiling (family : StepFamily Exact) (w : TickWindow) :
    goal.simplicity family w ≤ goal.simplicityCeiling family := by
  have hbonus : zeroBonus w ≤ 1 := by
    unfold zeroBonus
    split
    · exact le_refl 1
    · exact zero_le_one
  unfold simplicity simplicityCeiling
  linarith

theorem simplicityCeiling_sub_one_le (family : StepFamily Exact) (w : TickWindow) :
    goal.simplicityCeiling family - 1 ≤ goal.simplicity family w := by
  have hbonus : 0 ≤ zeroBonus w := by
    unfold zeroBonus
    split
    · exact zero_le_one
    · exact le_refl 0
  unfold simplicity simplicityCeiling
  linarith

theorem penalty_nonneg (rank : Nat) : 0 ≤ goal.penalty rank := by
  unfold penalty
  split
  · positivity
  · exact le_refl 0

theorem penalty_le_one {rank : Nat} (h : rank < goal.options.niceSteps.length) :
    goal.penalty rank ≤ 1 := by
  unfold penalty
  split
  · exact div_le_one_of_le₀ (Nat.cast_le.mpr (by omega)) (Nat.cast_nonneg _)
  · exact zero_le_one

theorem penalty_mono {rank rank' : Nat} (h : rank ≤ rank') :
    goal.penalty rank ≤ goal.penalty rank' := by
  unfold penalty
  split
  · gcongr
  · exact le_refl 0

/-!
## Density
-/

def rate (w : TickWindow) : Rat :=
  (w.count - 1) / (w.last - w.first)

def hull (w : TickWindow) : Rat :=
  max w.last goal.high - min w.first goal.low

def targetRate (w : TickWindow) : Rat :=
  (goal.target - 1) / goal.hull w

def density (w : TickWindow) : Rat :=
  2 - max (rate w / goal.targetRate w) (goal.targetRate w / rate w)

def densityCeiling (count : Nat) : Rat :=
  if goal.target ≤ count then 2 - ((count : Rat) - 1) / ((goal.target : Rat) - 1) else 1

theorem span_le_hull (w : TickWindow) : w.last - w.first ≤ goal.hull w :=
  sub_le_sub (le_max_left w.last goal.high) (min_le_left w.first goal.low)

theorem hull_pos (w : TickWindow) : 0 < goal.hull w :=
  lt_of_lt_of_le (sub_pos.mpr w.first_lt_last) (goal.span_le_hull w)

theorem rate_pos (w : TickWindow) : 0 < rate w :=
  div_pos (lt_of_lt_of_le one_pos w.one_le_gaps) (sub_pos.mpr w.first_lt_last)

theorem targetRate_pos (w : TickWindow) : 0 < goal.targetRate w :=
  div_pos (lt_of_lt_of_le one_pos goal.one_le_target_gaps) (goal.hull_pos w)

theorem toGoal_density (w : TickWindow) :
    goal.toGoal.density w.count w.ticks = value (goal.density w) := by
  have hspan : w.last - w.first ≠ 0 := (sub_pos.mpr w.first_lt_last).ne'
  have hhull : max w.last goal.high - min w.first goal.low ≠ 0 := (goal.hull_pos w).ne'
  have hrate := (rate_pos w).ne'
  have htarget := (goal.targetRate_pos w).ne'
  simp only [rate] at hrate
  simp only [targetRate, hull] at htarget
  simp only [TickGoal.density, toGoal, TickWindow.ticks, one_eq, two_eq, ofNat_eq,
    value_sub, lesser_value, greater_value, value_div _ hspan, value_div _ hhull,
    value_div _ hrate, value_div _ htarget]
  rfl

theorem toGoal_densityCeiling (count : Nat) :
    goal.toGoal.densityCeiling count = value (goal.densityCeiling count) := by
  have htarget : (goal.target : Rat) - 1 ≠ 0 :=
    (lt_of_lt_of_le one_pos goal.one_le_target_gaps).ne'
  simp only [TickGoal.densityCeiling, densityCeiling, toGoal, one_eq, two_eq, ofNat_eq,
    value_sub, value_div _ htarget, value_le_value, Nat.cast_le]
  exact (apply_ite value _ _ _).symm

theorem one_le_max_div_div {r t : Rat} (hr : 0 < r) (ht : 0 < t) : 1 ≤ max (r / t) (t / r) := by
  rcases le_total t r with h | h
  · exact le_max_of_le_left ((one_le_div ht).mpr h)
  · exact le_max_of_le_right ((one_le_div hr).mpr h)

theorem density_le_one (w : TickWindow) : goal.density w ≤ 1 := by
  have h := one_le_max_div_div (rate_pos w) (goal.targetRate_pos w)
  unfold density
  linarith

theorem gaps_ratio_le_rate_ratio (w : TickWindow) :
    ((w.count : Rat) - 1) / ((goal.target : Rat) - 1) ≤ rate w / goal.targetRate w := by
  have hspan : 0 < w.last - w.first := sub_pos.mpr w.first_lt_last
  have hgaps : 0 < (goal.target : Rat) - 1 := lt_of_lt_of_le one_pos goal.one_le_target_gaps
  have hcount : 0 ≤ (w.count : Rat) - 1 := le_trans zero_le_one w.one_le_gaps
  have hhull := mul_le_mul_of_nonneg_left (goal.span_le_hull w) (mul_nonneg hcount hgaps.le)
  rw [rate, targetRate, div_div_div_eq, div_le_div_iff₀ hgaps (mul_pos hspan hgaps)]
  linarith

theorem density_le_ceiling (w : TickWindow) : goal.density w ≤ goal.densityCeiling w.count := by
  unfold densityCeiling
  split
  · have h := le_max_of_le_left (c := goal.targetRate w / rate w)
      (goal.gaps_ratio_le_rate_ratio w)
    unfold density
    linarith
  · exact goal.density_le_one w

theorem density_eq_ceiling {w : TickWindow} (hfirst : w.first ≤ goal.low)
    (hlast : goal.high ≤ w.last) (hcount : goal.target ≤ w.count) :
    goal.density w = goal.densityCeiling w.count := by
  have hspan : 0 < w.last - w.first := sub_pos.mpr w.first_lt_last
  have htarget : 0 < (goal.target : Rat) - 1 := lt_of_lt_of_le one_pos goal.one_le_target_gaps
  have hgaps : (goal.target : Rat) - 1 ≤ w.count - 1 :=
    sub_le_sub_right (Nat.cast_le.mpr hcount) 1
  have hhull : goal.hull w = w.last - w.first := by
    rw [hull, max_eq_left hlast, min_eq_left hfirst]
  have hratio : rate w / goal.targetRate w = (w.count - 1) / (goal.target - 1) := by
    rw [rate, targetRate, hhull, div_div_div_cancel_right₀ hspan.ne']
  have hinverse : goal.targetRate w / rate w = (goal.target - 1) / (w.count - 1) := by
    rw [rate, targetRate, hhull, div_div_div_cancel_right₀ hspan.ne']
  have hmax : (goal.target - 1) / (w.count - 1) ≤ ((w.count : Rat) - 1) / (goal.target - 1) :=
    ((div_le_one (lt_of_lt_of_le htarget hgaps)).mpr hgaps).trans ((one_le_div htarget).mpr hgaps)
  rw [density, densityCeiling, if_pos hcount, hratio, hinverse, max_eq_left hmax]

theorem densityCeiling_le_one (count : Nat) : goal.densityCeiling count ≤ 1 := by
  have hgaps : 0 < (goal.target : Rat) - 1 := lt_of_lt_of_le one_pos goal.one_le_target_gaps
  unfold densityCeiling
  split
  next h =>
      have hcast : (goal.target : Rat) ≤ count := Nat.cast_le.mpr h
      have hratio : 1 ≤ ((count : Rat) - 1) / ((goal.target : Rat) - 1) :=
        (one_le_div hgaps).mpr (by linarith)
      linarith
  next => exact le_refl 1

theorem densityCeiling_anti {k k' : Nat} (h : k ≤ k') :
    goal.densityCeiling k' ≤ goal.densityCeiling k := by
  by_cases hk : goal.target ≤ k
  · have hgaps : 0 < (goal.target : Rat) - 1 := lt_of_lt_of_le one_pos goal.one_le_target_gaps
    rw [densityCeiling, densityCeiling, if_pos hk, if_pos (le_trans hk h)]
    gcongr
  · calc
      goal.densityCeiling k' ≤ 1 := goal.densityCeiling_le_one k'
      _ = goal.densityCeiling k := by rw [densityCeiling, if_neg hk]

end RationalGoal
end LayeredPlot
