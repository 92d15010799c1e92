import LayeredPlot.Proofs.Tick.Mirror

/-!
# A tick at zero

Whether one of the ticks is zero is told by a remainder: by how far the first tick lies above a
multiple of the step, with a tolerance on both sides, and by the signs of the first and the last
tick.  Ticks need not lie at multiples of their step, for where a step skips points of a grid, ticks
start at any point of the grid.  As long as the points are no closer than the tolerance, the test
finds a tick at zero exactly if there is one.
-/

namespace LayeredPlot

open Exact

theorem exists_add_mul_eq_zero_iff {start : Int} {skip count : Nat} (hskip : 1 ≤ skip) :
    (exists i : Nat, i < count ∧ start + i * skip = 0) ↔
      (skip : Int) ∣ start ∧ start ≤ 0 ∧ 0 ≤ start + ((count : Int) - 1) * skip := by
  have hpos : (0 : Int) < skip := Int.natCast_pos.mpr hskip
  constructor
  · intro h
    rcases h with ⟨i, hi, hzero⟩
    have hstart : start = skip * -(i : Int) := by linarith
    have hle : (i : Int) * skip ≤ ((count : Int) - 1) * skip :=
      mul_le_mul_of_nonneg_right (by omega) hpos.le
    have hnonneg : 0 ≤ (i : Int) * skip := mul_nonneg (Int.natCast_nonneg i) hpos.le
    exact ⟨⟨-(i : Int), hstart⟩, by linarith, by linarith⟩
  · intro h
    rcases h with ⟨⟨q, rfl⟩, hstart, hend⟩
    have hq : q ≤ 0 := nonpos_of_mul_nonpos_right hstart hpos
    have hcount : 0 ≤ q + ((count : Int) - 1) := by
      apply nonneg_of_mul_nonneg_right (a := (skip : Int)) _ hpos
      linarith
    refine ⟨q.natAbs, by omega, ?_⟩
    rw [Int.ofNat_natAbs_of_nonpos hq]
    ring

theorem TickWindow.spacing_pos (w : TickWindow) {skip : Nat} (hskip : 1 ≤ skip) :
    0 < w.step / skip :=
  div_pos w.step_pos (Nat.cast_pos.mpr hskip)

namespace Labelling.HasWindow

variable {l : Labelling Exact} {w : TickWindow}

/-!
## Ticks on a grid

The points of the grid are the multiples of the step divided by what the family skips.
-/

theorem tick_eq (hw : l.HasWindow w) (hskip : 1 ≤ l.family.skip) (i : Nat) :
    w.tick i = ((l.start + i * l.family.skip : Int) : Rat) * (w.step / l.family.skip) := by
  have hne : (l.family.skip : Rat) ≠ 0 := Nat.cast_ne_zero.mpr (by omega)
  unfold TickWindow.tick
  rw [hw.first]
  push_cast
  field_simp

theorem first_le_zero_iff (hw : l.HasWindow w) (hskip : 1 ≤ l.family.skip) :
    w.first ≤ 0 ↔ l.start ≤ 0 := by
  rw [hw.first, ← not_lt, mul_pos_iff_of_pos_right (w.spacing_pos hskip), Int.cast_pos, not_lt]

theorem zero_le_last_iff (hw : l.HasWindow w) (hskip : 1 ≤ l.family.skip) :
    0 ≤ w.last ↔ 0 ≤ l.start + ((l.count : Int) - 1) * l.family.skip := by
  have hgaps : ((w.count - 1 : Nat) : Int) = (l.count : Int) - 1 := by
    rw [← hw.count]
    exact Int.ofNat_sub w.one_le_count
  rw [← w.tick_last, hw.tick_eq hskip, hgaps, mul_nonneg_iff_of_pos_right (w.spacing_pos hskip),
    Int.cast_nonneg_iff]

theorem exists_tick_eq_zero_iff (hw : l.HasWindow w) (hskip : 1 ≤ l.family.skip) :
    (exists i, i < l.count ∧ w.tick i = 0) ↔
      (l.family.skip : Int) ∣ l.start ∧ w.first ≤ 0 ∧ 0 ≤ w.last := by
  have htick : forall i, w.tick i = 0 ↔ l.start + (i : Int) * l.family.skip = 0 := by
    intro i
    rw [hw.tick_eq hskip, mul_eq_zero_iff_right (w.spacing_pos hskip).ne', Int.cast_eq_zero]
  simp only [htick, hw.first_le_zero_iff hskip, hw.zero_le_last_iff hskip]
  exact exists_add_mul_eq_zero_iff hskip

/-!
## The test
-/

theorem rest_eq (hw : l.HasWindow w) (hskip : 1 ≤ l.family.skip) :
    RationalGoal.rest w
      = ((l.start % l.family.skip : Int) : Rat) * (w.step / l.family.skip) := by
  have hne : (l.family.skip : Rat) ≠ 0 := Nat.cast_ne_zero.mpr (by omega)
  have hstep := w.step_pos.ne'
  have hquotient : w.first / w.step = (l.start : Rat) / l.family.skip := by
    rw [hw.first]
    field_simp
  rw [RationalGoal.rest_eq, hquotient, Int.fract_div_intCast_eq_div_intCast_mod]
  field_simp

/-- A remainder leads from one point of the grid to another, so the only one within the tolerance is
zero.  It is never close to the step, for at least one point is missing. -/
theorem near_multiple_iff (hw : l.HasWindow w) (hskip : 1 ≤ l.family.skip) {tolerance : Rat}
    (htolerance : 0 < tolerance) (hspacing : tolerance ≤ w.step / l.family.skip) :
    RationalGoal.rest w < tolerance ∨ w.step - RationalGoal.rest w < tolerance ↔
      (l.family.skip : Int) ∣ l.start := by
  have hpos : (0 : Int) < l.family.skip := Int.natCast_pos.mpr hskip
  have hcast : (l.family.skip : Rat) ≠ 0 := Nat.cast_ne_zero.mpr (by omega)
  have hstep : w.step = l.family.skip * (w.step / l.family.skip) := by field_simp
  rw [Int.dvd_iff_emod_eq_zero, hw.rest_eq hskip]
  constructor
  · intro h
    by_contra hne
    have hfrom := Int.emod_nonneg l.start hpos.ne'
    have hbelow := Int.emod_lt_of_pos l.start hpos
    have hone : (1 : Rat) ≤ ((l.start % l.family.skip : Int) : Rat) := by
      exact_mod_cast (show 1 ≤ l.start % l.family.skip by omega)
    have hmissing : ((l.start % l.family.skip : Int) : Rat) + 1 ≤ l.family.skip := by
      exact_mod_cast hbelow
    have hlow := mul_le_mul_of_nonneg_right hone (w.spacing_pos hskip).le
    have hhigh := mul_le_mul_of_nonneg_right hmissing (w.spacing_pos hskip).le
    rcases h with h | h
    · linarith
    · rw [← hstep] at hhigh
      linarith
  · intro h
    left
    rw [h, Int.cast_zero, zero_mul]
    exact htolerance

theorem hasZero_iff (hw : l.HasWindow w) (hskip : 1 ≤ l.family.skip)
    (hspacing : 1 / 10 ^ 10 ≤ w.step / l.family.skip) :
    TickGoal.hasZero w.ticks = true ↔ exists i, i < l.count ∧ w.tick i = 0 := by
  rw [RationalGoal.hasZero_ticks_iff, hw.exists_tick_eq_zero_iff hskip,
    hw.near_multiple_iff hskip (by norm_num) hspacing]

end Labelling.HasWindow

/-!
## The bonus
-/

theorem TickGoal.exists_rankPenalty_eq (goal : TickGoal Exact) (family : StepFamily Exact) :
    exists r : Rat, goal.rankPenalty family = value r := by
  unfold rankPenalty
  dsimp only
  split
  next hseveral =>
      have hne : ((goal.options.niceSteps.length - 1 : Nat) : Rat) ≠ 0 :=
        Nat.cast_ne_zero.mpr (by omega)
      exact ⟨_, value_div _ hne⟩
  next => exact ⟨0, zero_eq⟩

/-- Ticks on a grid whose points are no closer than the tolerance have the bonus of one if one of
them is zero, and no bonus otherwise. -/
theorem TickGoal.simplicity_eq_iff_tick_at_zero (goal : TickGoal Exact) {l : Labelling Exact}
    (hskip : 1 ≤ l.family.skip)
    (hnice : Scalar.IsFinite l.family.nice ∧ (0.0 : Exact) < l.family.nice) (hcount : 2 ≤ l.count)
    (hspacing : (1e-10 : Exact) ≤ l.step / l.family.skipped) :
    (goal.simplicity l.family l.ticks
        = 1.0 - goal.rankPenalty l.family - l.family.skipped + 1.0 ↔
      exists i, i < l.count ∧ l.ticks.first + Scalar.ofNat i * l.ticks.step = 0.0) ∧
    (goal.simplicity l.family l.ticks
        = 1.0 - goal.rankPenalty l.family - l.family.skipped ↔
      ¬ exists i, i < l.count ∧ l.ticks.first + Scalar.ofNat i * l.ticks.step = 0.0) := by
  rcases isFinite_iff.mp hnice.1 with ⟨q, hq⟩
  have hpos : 0 < q := by
    have hlt := hnice.2
    rwa [hq, zero_eq, value_lt_value] at hlt
  rcases Labelling.exists_window hskip hq hpos hcount with ⟨w, hw⟩
  rcases goal.exists_rankPenalty_eq l.family with ⟨r, hr⟩
  have hne : (l.family.skip : Rat) ≠ 0 := Nat.cast_ne_zero.mpr (by omega)
  have htolerance : (1 : Rat) / 10 ^ 10 ≤ w.step / l.family.skip := by
    have hdecimal : (1e-10 : Exact) = value ((1 : Nat) / 10 ^ 10) := decimal_eq 1 10
    rw [hw.step, StepFamily.skipped, ofNat_eq, value_div _ hne, hdecimal, value_le_value] at hspacing
    exact_mod_cast hspacing
  have hticks : forall i, l.ticks.first + Scalar.ofNat i * l.ticks.step = 0.0 ↔ w.tick i = 0 := by
    intro i
    rw [hw.ticks, TickWindow.ticks, ofNat_eq, value_mul, value_add, zero_eq]
    exact ⟨Exact.value.inj, congrArg value⟩
  have hzero := hw.hasZero_iff hskip htolerance
  have hbare : (1.0 : Exact) - goal.rankPenalty l.family - l.family.skipped
      = value (1 - r - l.family.skip) := by
    rw [hr, one_eq, StepFamily.skipped, ofNat_eq, value_sub, value_sub]
  simp only [hticks, ← hzero]
  unfold simplicity
  rw [hbare, hw.ticks]
  by_cases h : hasZero w.ticks = true
  · rw [if_pos h, one_eq, value_add]
    refine ⟨iff_of_true rfl h, iff_of_false ?_ (not_not_intro h)⟩
    intro heq
    linarith [Exact.value.inj heq]
  · rw [if_neg h, one_eq, zero_eq, value_add, value_add]
    refine ⟨iff_of_false ?_ h, iff_of_true (congrArg value (add_zero _)) h⟩
    intro heq
    linarith [Exact.value.inj heq]

def onesFromHalves (start : Int) : Labelling Exact where
  family := { skip := 2, rank := 0, nice := value 5 }
  count := 3
  exponent := -1
  start := start

theorem TickGoal.simplicity_eq_iff_tick_at_zero_onesFromHalves :
    fourUnits.toGoal.simplicity (onesFromHalves (-2)).family (onesFromHalves (-2)).ticks = value 0
      ∧ fourUnits.toGoal.simplicity (onesFromHalves (-3)).family (onesFromHalves (-3)).ticks
        = value (-1) := by
  rcases simplicity_eq_iff_tick_at_zero fourUnits.toGoal (l := onesFromHalves (-2)) (by decide)
    (by decide) (by decide) (by decide +kernel) with ⟨hbonus, _⟩
  rcases simplicity_eq_iff_tick_at_zero fourUnits.toGoal (l := onesFromHalves (-3)) (by decide)
    (by decide) (by decide) (by decide +kernel) with ⟨_, hnone⟩
  constructor
  · exact (hbonus.mpr ⟨1, by decide, by decide +kernel⟩).trans (by decide +kernel)
  · exact (hnone.mpr (by decide +kernel)).trans (by decide +kernel)

end LayeredPlot
