import LayeredPlot.Proofs.Tick.Completeness
import Mathlib.Algebra.Order.Archimedean.Basic

/-!
# Standard options always find ticks

Some power of ten, or five times one, fits four to twenty times into data with an extent.  Ticks
with such a step that lie closely around the data score enough to be chosen, and the search goes
through them.  So a search with the standard options for five ticks does not end without any, as
long as the data are not too wide for its powers of ten.
-/

namespace LayeredPlot

open Exact

/-- Ticks that reach to both ends of the data, with none to spare at either. -/
structure RationalGoal.Hugs (goal : RationalGoal) (w : TickWindow) : Prop where
  first_le : w.first ≤ goal.low
  low_lt : goal.low < w.first + w.step
  high_le : goal.high ≤ w.last
  last_lt : w.last < goal.high + w.step

namespace RationalGoal

variable {goal : RationalGoal} {w : TickWindow}

/-!
## Scores of ticks closely around data
-/

theorem Hugs.range_le_span (h : goal.Hugs w) : goal.range ≤ w.span := by
  have hfirst := h.first_le
  have hlast := h.high_le
  unfold TickWindow.last at hlast
  unfold range
  linarith

theorem Hugs.span_lt (h : goal.Hugs w) : w.span < goal.range + 2 * w.step := by
  have hfirst := h.low_lt
  have hlast := h.last_lt
  unfold TickWindow.last at hlast
  unfold range
  linarith

theorem Hugs.coverage_ge (h : goal.Hugs w) {n : Rat} (hn : 0 < n)
    (hfine : n * w.step ≤ goal.range) : 1 - 100 / n ^ 2 ≤ goal.coverage w := by
  have hstep : w.step ≤ goal.range / n := (le_div_iff₀' hn).mpr hfine
  have hrange := goal.range_pos
  have hhigh : (goal.high - w.last) ^ 2 ≤ (goal.range / n) ^ 2 := by
    apply sq_le_sq'
    · linarith [h.last_lt]
    · linarith [h.high_le, w.step_pos]
  have hlow : (goal.low - w.first) ^ 2 ≤ (goal.range / n) ^ 2 := by
    apply sq_le_sq'
    · linarith [h.first_le, w.step_pos]
    · linarith [h.low_lt]
  have hmissed : 1 / 2 * ((goal.high - w.last) ^ 2 + (goal.low - w.first) ^ 2)
      / (1 / 10 * goal.range) ^ 2 ≤ 100 / n ^ 2 :=
    calc
      _ ≤ (goal.range / n) ^ 2 / (1 / 10 * goal.range) ^ 2 :=
            div_le_div_of_nonneg_right (by linarith) goal.tenth_range_sq_pos.le
      _ = 100 / n ^ 2 := by
            field_simp
            norm_num
  unfold coverage
  linarith

theorem Hugs.lt_weighed (h : goal.Hugs w) (htarget : goal.target = 5)
    (hfew : 4 * w.step ≤ goal.range) (hmany : goal.range ≤ 20 * w.step)
    {family : StepFamily Exact} (hsimple : 4 / 5 ≤ goal.simplicityCeiling family) :
    -2 < 1 / 5 * goal.coverage w + 1 / 4 * goal.simplicity family w + 1 / 2 * goal.density w
      + 1 / 20 := by
  have hstep := w.step_pos
  have hspan : w.span = w.step * (w.count - 1) := rfl
  have hfour : 4 ≤ (w.count : Rat) - 1 := by
    apply le_of_mul_le_mul_left _ hstep
    linarith [h.range_le_span]
  have hcount : goal.target ≤ w.count := by
    have hcast : ((5 : Nat) : Rat) ≤ w.count := by
      push_cast
      linarith
    rw [htarget]
    exact Nat.cast_le.mp hcast
  have hdensity : goal.density w = 2 - ((w.count : Rat) - 1) / 4 := by
    rw [goal.density_eq_ceiling h.first_le h.high_le hcount, densityCeiling, if_pos hcount, htarget]
    norm_num
  have hsimplicity := goal.simplicityCeiling_sub_one_le family w
  -- Coarse ticks may miss the ends of the data but are few, and many ticks are close to them.
  rcases le_total goal.range (10 * w.step) with hcoarse | hfine
  · have hcoverage := h.coverage_ge (n := 4) (by norm_num) hfew
    have hgaps : (w.count : Rat) - 1 < 12 := by
      apply lt_of_mul_lt_mul_left _ hstep.le
      linarith [h.span_lt]
    linarith
  · have hcoverage := h.coverage_ge (n := 10) (by norm_num) hfine
    have hgaps : (w.count : Rat) - 1 < 22 := by
      apply lt_of_mul_lt_mul_left _ hstep.le
      linarith [h.span_lt]
    linarith

/-!
## The search finds ticks that score enough
-/

theorem exists_chooseTicksFrom_eq_ok (hw : goal.options.weights.NotNegative)
    {origin : TickGoal Exact -> StepFamily Exact -> Nat -> Int} {l : Labelling Exact}
    (hfor : l.IsFor goal.toGoal) (hvisited : l.IsVisited goal.toGoal (origin goal.toGoal))
    (hadmits : goal.toGoal.Admits l.ticks) (hscore : value (-2) < l.score goal.toGoal) :
    exists p, goal.options.chooseTicksFrom origin (value goal.low) (value goal.high) goal.target
      = .ok p := by
  have hmem := Labelling.mem_candidatesFrom_iff.mpr ⟨l, hfor, hvisited, hadmits, rfl⟩
  rw [← Incumbent.start_score] at hscore
  rw [chooseTicksFrom_eq_outcome goal hw origin]
  rcases Incumbent.forall_not_lt_or_exists_isFirstBest
      (goal.toGoal.candidatesFrom (origin goal.toGoal)) with hnone | ⟨c, hc⟩
  · exact absurd hscore (hnone _ hmem)
  · exact ⟨c.ticks, (outcome_offerAll_eq_ok_iff _ _ _ _).mpr ⟨c, hc, rfl⟩⟩

theorem hugs_of_floor_ceil (hfirst : w.first = ⌊goal.low / w.step⌋ * w.step)
    (hlast : w.last = ⌈goal.high / w.step⌉ * w.step) : goal.Hugs w where
  first_le := by
    rw [hfirst]
    exact (le_div_iff₀ w.step_pos).mp (Int.floor_le _)
  low_lt := by
    have hfloor := (div_lt_iff₀ w.step_pos).mp (Int.lt_floor_add_one (goal.low / w.step))
    rw [hfirst]
    linarith
  high_le := by
    rw [hlast]
    exact (div_le_iff₀ w.step_pos).mp (Int.le_ceil _)
  last_lt := by
    have hceil := sub_lt_iff_lt_add.mpr (Int.ceil_lt_add_one (goal.high / w.step))
    have hscaled := (lt_div_iff₀ w.step_pos).mp hceil
    rw [hlast]
    linarith

theorem exists_gaps {s : Rat} (hs : 0 < s) (hmany : goal.range ≤ 20 * s) :
    exists gaps : Nat, 1 ≤ gaps ∧ gaps ≤ 22 ∧ ⌈goal.high / s⌉ = ⌊goal.low / s⌋ + gaps := by
  have hlt : ⌊goal.low / s⌋ < ⌈goal.high / s⌉ :=
    Int.floor_lt_ceil_of_lt (div_lt_div_of_pos_right goal.low_lt_high hs)
  have hparts : goal.high / s - goal.low / s ≤ 20 := by
    rw [← sub_div, div_le_iff₀ hs]
    exact hmany
  have hcast : ((⌈goal.high / s⌉ - ⌊goal.low / s⌋ : Int) : Rat) ≤ (22 : Int) := by
    push_cast
    linarith [Int.lt_floor_add_one (goal.low / s), Int.ceil_lt_add_one (goal.high / s)]
  have hle := Int.cast_le.mp hcast
  exact ⟨(⌈goal.high / s⌉ - ⌊goal.low / s⌋).toNat, by omega, by omega, by omega⟩

theorem exists_labelling_hugs {rank : Nat} {q : Rat} {z : Int}
    (hnice : goal.options.niceSteps[rank]? = some (value q)) (hq : 0 < q) (hz : z < 100)
    (hmany : goal.range ≤ 20 * (q * 10 ^ z)) :
    exists (l : Labelling Exact) (w : TickWindow), l.IsFor goal.toGoal ∧ l.HasWindow w
      ∧ l.family = ⟨1, rank, value q⟩ ∧ w.step = q * 10 ^ z ∧ goal.Hugs w := by
  rcases exists_gaps (mul_pos hq (zpow_pos (by norm_num) z)) hmany with ⟨gaps, hone, hfew, hceil⟩
  let l : Labelling Exact := ⟨⟨1, rank, value q⟩, gaps + 1, z, ⌊goal.low / (q * 10 ^ z)⌋⟩
  have hfor : l.IsFor goal.toGoal :=
    ⟨⟨le_refl 1, by norm_num⟩, hnice, ⟨Nat.succ_le_succ hone, by simp only [l]; omega⟩, hz⟩
  rcases goal.exists_window_of_isFor hfor with ⟨w, hw⟩
  rcases goal.exists_nice hfor with ⟨_, hq', _, hwidth⟩
  cases hq'
  have hstep : w.step = q * 10 ^ z := by
    rw [Exact.value.inj (hw.step.symm.trans hwidth), Nat.cast_one, one_mul]
  have hfirst : w.first = ⌊goal.low / w.step⌋ * w.step := by
    rw [hw.first, hstep, Nat.cast_one, div_one]
  have hcount : (w.count : Rat) = gaps + 1 := by
    rw [hw.count]
    exact Nat.cast_succ gaps
  have hlast : w.last = ⌈goal.high / w.step⌉ * w.step := by
    unfold TickWindow.last TickWindow.span
    rw [hfirst, hcount, hstep, hceil]
    push_cast
    ring
  exact ⟨l, w, hfor, hw, rfl, hstep, hugs_of_floor_ceil hfirst hlast⟩

end RationalGoal

/-!
## Standard options
-/

theorem exists_step_of_pos {r : Rat} (hr : 0 < r) (hwidth : r ≤ 10 ^ 99) :
    exists z : Int, z < 100 ∧
      ((4 * (1 * 10 ^ z) ≤ r ∧ r ≤ 20 * (1 * 10 ^ z))
        ∨ (4 * (5 * 10 ^ z) ≤ r ∧ r ≤ 20 * (5 * 10 ^ z))) := by
  rcases exists_mem_Ioc_zpow (x := r / 20) (y := 10) (by positivity) (by norm_num) with
    ⟨z, hlow, hhigh⟩
  rw [zpow_add_one₀ (by norm_num)] at hhigh
  have hz : z < 99 := by
    apply (zpow_lt_zpow_iff_right₀ (a := (10 : Rat)) (by norm_num)).mp
    have hcast : (10 : Rat) ^ (99 : Int) = 10 ^ 99 := by norm_cast
    rw [hcast]
    linarith
  rcases le_total (40 * (10 : Rat) ^ z) r with h | h
  · refine ⟨z + 1, by omega, Or.inl ?_⟩
    rw [zpow_add_one₀ (by norm_num)]
    constructor
    · linarith
    · linarith
  · refine ⟨z, by omega, Or.inr ?_⟩
    constructor
    · linarith
    · linarith

def standardGoal (low high : Rat) (h : low < high) (loose : Bool) : RationalGoal where
  low := low
  high := high
  target := 5
  options := { TickOptions.standard with loose := loose }
  low_lt_high := h
  two_le_target := by decide
  valid := by
    cases loose <;> decide

theorem standardWeights_notNegative : (TickOptions.standardWeights : Weights Exact).NotNegative :=
  ⟨by decide, by decide, by decide⟩

section Standard

variable {low high : Rat} (h : low < high) (loose : Bool)

theorem standardGoal_weigh (c s g : Rat) :
    (standardGoal low high h loose).toGoal.weigh (value c) (value s) (value g)
      = value (1 / 5 * c + 1 / 4 * s + 1 / 2 * g + 1 / 20) := by
  show (0.2 : Exact) * value c + (0.25 : Exact) * value s + (0.5 : Exact) * value g + (0.05 : Exact)
    = _
  rw [decimal_eq, decimal_eq, decimal_eq, decimal_eq]
  simp only [value_mul, value_add]
  norm_num

theorem standardGoal_simplicityCeiling_ge {rank : Nat} (hrank : rank ≤ 1) (nice : Exact) :
    4 / 5 ≤ (standardGoal low high h loose).simplicityCeiling ⟨1, rank, nice⟩ := by
  have hcast : (rank : Rat) ≤ 1 := by exact_mod_cast hrank
  have hpenalty : (standardGoal low high h loose).penalty rank = rank / 5 := by
    unfold RationalGoal.penalty standardGoal TickOptions.standard
    norm_num
  unfold RationalGoal.simplicityCeiling
  rw [hpenalty]
  push_cast
  linarith

theorem exists_chooseTicks_standardGoal_eq_ok (hwidth : high - low ≤ 10 ^ 99) :
    exists p, (standardGoal low high h loose).options.chooseTicks (value low) (value high) 5
      = .ok p := by
  -- Either of the two most preferred nice steps gives a labelling closely around the data.
  have hstep : exists (rank : Nat) (q : Rat) (z : Int),
      rank ≤ 1 ∧ (standardGoal low high h loose).options.niceSteps[rank]? = some (value q)
        ∧ 0 < q ∧ z < 100 ∧ 4 * (q * 10 ^ z) ≤ (standardGoal low high h loose).range
        ∧ (standardGoal low high h loose).range ≤ 20 * (q * 10 ^ z) := by
    rcases exists_step_of_pos (sub_pos.mpr h) hwidth with ⟨z, hz, ⟨hfew, hmany⟩ | ⟨hfew, hmany⟩⟩
    · exact ⟨0, 1, z, by norm_num, congrArg some one_eq, by norm_num, hz, hfew, hmany⟩
    · exact ⟨1, 5, z, by norm_num, congrArg some (by decide), by norm_num, hz, hfew, hmany⟩
  rcases hstep with ⟨rank, q, z, hrank, hnice, hq, hz, hfew, hmany⟩
  rcases RationalGoal.exists_labelling_hugs hnice hq hz hmany with
    ⟨l, w, hfor, hwindow, hfamily, hwidth', hhugs⟩
  rw [← hwidth'] at hfew hmany
  have hencloses : (standardGoal low high h loose).toGoal.Encloses l.ticks := by
    rw [hwindow.ticks]
    exact ⟨value_le_value.mpr hhugs.first_le, value_le_value.mpr hhugs.high_le⟩
  have hadmits : (standardGoal low high h loose).toGoal.Admits l.ticks := by
    rw [hwindow.ticks, RationalGoal.admits_iff]
    exact Or.inr ⟨hhugs.first_le, hhugs.high_le⟩
  have hscore : value (-2) < l.score (standardGoal low high h loose).toGoal := by
    rw [RationalGoal.score_eq_of_hasWindow _ hwindow, standardGoal_weigh, value_lt_value]
    apply hhugs.lt_weighed rfl hfew hmany
    rw [hfamily]
    exact standardGoal_simplicityCeiling_ge h loose hrank _
  exact RationalGoal.exists_chooseTicksFrom_eq_ok standardWeights_notNegative hfor
    (RationalGoal.isVisited_of_encloses _ hfor hencloses) hadmits hscore

end Standard

/-- A search for five ticks with the standard options finds some over any data that have an extent
and are not wider than the greatest of its powers of ten, whether or not the ticks have to reach to
both ends of the data. -/
theorem exists_chooseTicks_standard_eq_ok {low high : Rat} (h : low < high)
    (hwidth : high - low ≤ 10 ^ 99) :
    (exists p, (TickOptions.standard : TickOptions Exact).chooseTicks (value low) (value high) 5
        = .ok p)
      ∧ (exists p, ({ TickOptions.standard with loose := true } : TickOptions Exact).chooseTicks
          (value low) (value high) 5 = .ok p) :=
  ⟨exists_chooseTicks_standardGoal_eq_ok h false hwidth,
    exists_chooseTicks_standardGoal_eq_ok h true hwidth⟩

theorem exists_chooseTicks_standard_widest :
    ((-10 ^ 100 : Rat) < -10 ^ 100 + 10 ^ 99) ∧ (-10 ^ 100 + 10 ^ 99 : Rat) - -10 ^ 100 ≤ 10 ^ 99
      ∧ exists p, ({ TickOptions.standard with loose := true } : TickOptions Exact).chooseTicks
          (value (-10 ^ 100)) (value (-10 ^ 100 + 10 ^ 99)) 5 = .ok p := by
  have hlt : (-10 ^ 100 : Rat) < -10 ^ 100 + 10 ^ 99 := by norm_num
  have hwidth : (-10 ^ 100 + 10 ^ 99 : Rat) - -10 ^ 100 ≤ 10 ^ 99 := by norm_num
  exact ⟨hlt, hwidth, (exists_chooseTicks_standard_eq_ok hlt hwidth).2⟩

end LayeredPlot
