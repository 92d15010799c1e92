import LayeredPlot.Proofs.Tick.Completeness

/-!
# The search stays within words

The starts of ticks are multiples of a nice step, counted from zero.  Over data that are not too
far from zero for their width, these counts and the integers that they are computed from fit signed
words of 64 bits.  Whatever the data, no number that the search divides by is zero.
-/

namespace LayeredPlot

open Exact

def FitsWord (n : Int) : Prop :=
  Int64.minValue.toInt ≤ n ∧ n ≤ Int64.maxValue.toInt

theorem fitsWord_of_abs_le {n : Int} (h : |n| ≤ 9 * 10 ^ 18) : FitsWord n := by
  have hmin : Int64.minValue.toInt = -9223372036854775808 := by decide
  have hmax : Int64.maxValue.toInt = 9223372036854775807 := by decide
  rcases abs_le.mp h with ⟨hlow, hhigh⟩
  unfold FitsWord
  omega

theorem FitsWord.of_between {m n k : Int} (hm : FitsWord m) (hk : FitsWord k) (hmn : m ≤ n)
    (hnk : n ≤ k) : FitsWord n :=
  ⟨hm.1.trans hmn, hnk.trans hk.2⟩

def Exact.IsDivisor (x : Exact) : Prop :=
  exists q : Rat, q ≠ 0 ∧ x = value q

theorem Exact.isDivisor_of_pos {q : Rat} (h : 0 < q) : IsDivisor (value q) :=
  ⟨q, h.ne', rfl⟩

namespace Labelling

/-- The starts that the search looks at beside a labelling fit words, and so do the integers that
the first and the last of them are computed from. -/
structure FitsWords (l : Labelling Exact) (goal : TickGoal Exact) : Prop where
  stepsToHigh : FitsWord (Scalar.truncate (Scalar.floor (goal.high / l.step)))
  multiplesToHigh : FitsWord (Scalar.truncate (Scalar.floor (goal.high / l.step)) * l.family.skip)
  multiplesOfGaps : FitsWord ((Int.ofNat l.count - 1) * l.family.skip)
  firstStart : FitsWord (goal.firstStart l.family l.count l.step)
  stepsToLow : FitsWord (Scalar.truncate (Scalar.ceil (goal.low / l.step)))
  lastStart : FitsWord (goal.lastStart l.family l.step)
  starts : forall start, goal.firstStart l.family l.count l.step ≤ start ->
    start ≤ goal.lastStart l.family l.step -> FitsWord start

structure HasDivisors (l : Labelling Exact) (goal : TickGoal Exact) : Prop where
  moreThanCount : IsDivisor (Scalar.ofNat l.count + 1.0)
  skipped : IsDivisor l.family.skipped
  nice : IsDivisor l.family.nice
  step : IsDivisor l.step
  tenthOfRange : IsDivisor (0.1 * (goal.high - goal.low))
  squaredTenth : IsDivisor (Scalar.square (0.1 * (goal.high - goal.low)))
  span : IsDivisor (l.ticks.last - l.ticks.first)
  targetGaps : IsDivisor (goal.target - 1.0)
  hull : IsDivisor (Scalar.greater l.ticks.last goal.high - Scalar.lesser l.ticks.first goal.low)
  rate : IsDivisor ((Scalar.ofNat l.count - 1.0) / (l.ticks.last - l.ticks.first))
  targetRate : IsDivisor ((goal.target - 1.0)
    / (Scalar.greater l.ticks.last goal.high - Scalar.lesser l.ticks.first goal.low))
  otherRanks : 1 < goal.options.niceSteps.length ->
    IsDivisor (Scalar.ofNat (goal.options.niceSteps.length - 1))

end Labelling

/-!
## Counts of steps
-/

theorem abs_floor_le {q : Rat} {n : Int} (h : |q| ≤ n) : |⌊q⌋| ≤ n := by
  rcases abs_le.mp h with ⟨hlow, hhigh⟩
  apply abs_le.mpr
  constructor
  · apply Int.le_floor.mpr
    push_cast
    exact hlow
  · exact Int.cast_le.mp ((Int.floor_le q).trans hhigh)

theorem abs_ceil_le {q : Rat} {n : Int} (h : |q| ≤ n) : |⌈q⌉| ≤ n := by
  rw [← abs_neg, ← Int.floor_neg]
  exact abs_floor_le ((abs_neg q).trans_le h)

namespace RationalGoal

variable (goal : RationalGoal) {l : Labelling Exact} {w : TickWindow}

theorem abs_div_step_le (hfor : l.IsFor goal.toGoal) (hw : l.HasWindow w)
    (hexponent : goal.toGoal.firstExponent l.family l.count ≤ l.exponent) {x : Rat}
    (hx : |x| ≤ 9 * 10 ^ 14 * goal.range) : |x / w.step| ≤ ((9 * 10 ^ 16 : Int) : Rat) := by
  have hcount : (w.count : Rat) + 1 ≤ 100 := by
    rw [hw.count]
    exact_mod_cast Nat.succ_le_succ hfor.count.2
  have hrange : goal.range ≤ w.step * 100 :=
    ((goal.firstExponent_le_iff_range_le hfor hw).mp hexponent).trans
      (mul_le_mul_of_nonneg_left hcount w.step_pos.le)
  rw [abs_div, abs_of_pos w.step_pos, div_le_iff₀ w.step_pos]
  push_cast
  linarith

theorem abs_mul_skip_le (hfor : l.IsFor goal.toGoal) {n : Int} (h : |n| ≤ 9 * 10 ^ 16) :
    |n * l.family.skip| ≤ 9 * 10 ^ 16 * 99 := by
  have hskip : (l.family.skip : Int) ≤ 99 := by exact_mod_cast hfor.skip.2
  rw [abs_mul, Nat.abs_cast]
  exact mul_le_mul h hskip (Int.natCast_nonneg _) (by norm_num)

theorem abs_gaps_mul_skip_le (hfor : l.IsFor goal.toGoal) :
    |((l.count : Int) - 1) * l.family.skip| ≤ 98 * 99 := by
  have hcount := hfor.count
  have hskip := hfor.skip
  rw [abs_of_nonneg (mul_nonneg (by omega) (by omega))]
  exact mul_le_mul (by omega) (by omega) (by omega) (by norm_num)

theorem fitsWords (hfor : l.IsFor goal.toGoal)
    (hexponent : goal.toGoal.firstExponent l.family l.count ≤ l.exponent)
    (hnear : max |goal.low| |goal.high| ≤ 9 * 10 ^ 14 * goal.range) : l.FitsWords goal.toGoal := by
  rcases goal.exists_window_of_isFor hfor with ⟨w, hw⟩
  rcases max_le_iff.mp hnear with ⟨hlow, hhigh⟩
  have hne := w.step_pos.ne'
  have hfloor := abs_floor_le (goal.abs_div_step_le hfor hw hexponent hhigh)
  have hceil := abs_ceil_le (goal.abs_div_step_le hfor hw hexponent hlow)
  have hmultiples := goal.abs_mul_skip_le hfor hfloor
  have hgaps := goal.abs_gaps_mul_skip_le hfor
  have hsteps : Scalar.truncate (Scalar.floor (goal.toGoal.high / l.step))
      = ⌊goal.high / w.step⌋ := by
    rw [hw.step]
    exact truncate_floor_div goal.high hne
  have hsteps' : Scalar.truncate (Scalar.ceil (goal.toGoal.low / l.step))
      = ⌈goal.low / w.step⌉ := by
    rw [hw.step]
    exact truncate_ceil_div goal.low hne
  have hfirst : FitsWord (goal.toGoal.firstStart l.family l.count l.step) := by
    apply fitsWord_of_abs_le
    rw [hw.step, goal.firstStart_eq _ _ hne]
    exact (abs_sub _ _).trans ((add_le_add hmultiples hgaps).trans (by norm_num))
  have hlast : FitsWord (goal.toGoal.lastStart l.family l.step) := by
    apply fitsWord_of_abs_le
    rw [hw.step, goal.lastStart_eq _ hne]
    exact (goal.abs_mul_skip_le hfor hceil).trans (by norm_num)
  exact
    { stepsToHigh := hsteps ▸ fitsWord_of_abs_le (hfloor.trans (by norm_num))
      multiplesToHigh := hsteps ▸ fitsWord_of_abs_le (hmultiples.trans (by norm_num))
      multiplesOfGaps := fitsWord_of_abs_le (hgaps.trans (by norm_num))
      firstStart := hfirst
      stepsToLow := hsteps' ▸ fitsWord_of_abs_le (hceil.trans (by norm_num))
      lastStart := hlast
      starts := fun _ h h' => hfirst.of_between hlast h h' }

/-!
## Divisors
-/

theorem tenth_mul_range_eq :
    (0.1 : Exact) * (goal.toGoal.high - goal.toGoal.low) = value (1 / 10 * goal.range) := by
  rw [tenth_eq]
  exact congrArg (value (1 / 10) * ·) (value_sub goal.high goal.low)

theorem target_sub_one_eq : goal.toGoal.target - 1.0 = value ((goal.target : Rat) - 1) := by
  rw [one_eq]
  exact value_sub goal.target 1

theorem last_sub_first_eq (hw : l.HasWindow w) :
    l.ticks.last - l.ticks.first = value (w.last - w.first) := by
  rw [hw.ticks]
  exact value_sub w.last w.first

theorem count_sub_one_eq (hw : l.HasWindow w) :
    (Scalar.ofNat l.count : Exact) - 1.0 = value ((w.count : Rat) - 1) := by
  rw [one_eq, ofNat_eq, value_sub, hw.count]

theorem greater_sub_lesser_eq (hw : l.HasWindow w) :
    Scalar.greater l.ticks.last goal.toGoal.high - Scalar.lesser l.ticks.first goal.toGoal.low
      = value (goal.hull w) := by
  rw [hw.ticks]
  change Scalar.greater (value w.last) (value goal.high)
    - Scalar.lesser (value w.first) (value goal.low) = _
  rw [greater_value, lesser_value, value_sub]
  rfl

theorem hasDivisors (hfor : l.IsFor goal.toGoal) : l.HasDivisors goal.toGoal := by
  rcases goal.exists_window_of_isFor hfor with ⟨w, hw⟩
  rcases goal.exists_nice hfor with ⟨q, hq, hpos, _⟩
  have hrange := goal.range_pos
  have hspan : 0 < w.last - w.first := sub_pos.mpr w.first_lt_last
  exact
    { moreThanCount := by
        rw [one_eq, ofNat_eq, value_add]
        exact isDivisor_of_pos (by positivity)
      skipped := isDivisor_of_pos (goal.skip_pos hfor)
      nice := by
        rw [hq]
        exact isDivisor_of_pos hpos
      step := by
        rw [hw.step]
        exact isDivisor_of_pos w.step_pos
      tenthOfRange := by
        rw [goal.tenth_mul_range_eq]
        exact isDivisor_of_pos (by positivity)
      squaredTenth := by
        rw [goal.tenth_mul_range_eq, square_value]
        exact isDivisor_of_pos goal.tenth_range_sq_pos
      span := by
        rw [last_sub_first_eq hw]
        exact isDivisor_of_pos hspan
      targetGaps := by
        rw [goal.target_sub_one_eq]
        exact isDivisor_of_pos (lt_of_lt_of_le one_pos goal.one_le_target_gaps)
      hull := by
        rw [goal.greater_sub_lesser_eq hw]
        exact isDivisor_of_pos (goal.hull_pos w)
      rate := by
        rw [count_sub_one_eq hw, last_sub_first_eq hw, value_div _ hspan.ne']
        exact isDivisor_of_pos (rate_pos w)
      targetRate := by
        rw [goal.target_sub_one_eq, goal.greater_sub_lesser_eq hw,
          value_div _ (goal.hull_pos w).ne']
        exact isDivisor_of_pos (goal.targetRate_pos w)
      otherRanks := by
        intro h
        exact isDivisor_of_pos (Nat.cast_pos.mpr (Nat.sub_pos_of_lt h)) }

end RationalGoal

/-- Over data that are at most nine hundred million million times as far from zero as they are wide,
from a power of ten on that lets ticks and two more span the data, all starts that the search looks
at and the integers that it computes them from fit words, and it does not divide by zero. -/
theorem search_stays_within_words (goal : RationalGoal)
    (hnear : max |goal.low| |goal.high| ≤ 9 * 10 ^ 14 * (goal.high - goal.low))
    {l : Labelling Exact} (hfor : l.IsFor goal.toGoal) {z : Int}
    (hz : (value goal.high - value goal.low) / (Scalar.ofNat l.count + 1.0) / l.family.skipped
      / l.family.nice ≤ Scalar.powTen z)
    (hexponent : z ≤ l.exponent) : l.FitsWords goal.toGoal ∧ l.HasDivisors goal.toGoal :=
  ⟨goal.fitsWords hfor (((goal.firstExponent_le_iff hfor z).mpr hz).trans hexponent) hnear,
    goal.hasDivisors hfor⟩

def farData : RationalGoal where
  low := 882 * 10 ^ 12 - 49 / 50
  high := 882 * 10 ^ 12
  target := 2
  options := { TickOptions.standard with niceSteps := [value (100 / 99)] }
  low_lt_high := by norm_num
  two_le_target := le_rfl
  valid := by decide +kernel

def farLabelling : Labelling Exact where
  family := ⟨99, 0, value (100 / 99)⟩
  count := 99
  exponent := -4
  start := 8731799999999990298

theorem search_stays_within_words_farData :
    max |farData.low| |farData.high| ≤ 9 * 10 ^ 14 * (farData.high - farData.low)
      ∧ farLabelling.IsFor farData.toGoal
      ∧ farLabelling.IsVisited farData.toGoal farData.toGoal.firstExponent
      ∧ farLabelling.FitsWords farData.toGoal ∧ farLabelling.HasDivisors farData.toGoal := by
  have hnear : max |farData.low| |farData.high| ≤ 9 * 10 ^ 14 * (farData.high - farData.low) := by
    unfold farData
    norm_num
  have hfor : farLabelling.IsFor farData.toGoal :=
    ⟨by decide, rfl, by decide, by decide⟩
  have hvisited : farLabelling.IsVisited farData.toGoal farData.toGoal.firstExponent :=
    ⟨by decide +kernel, by decide +kernel, by decide +kernel⟩
  exact ⟨hnear, hfor, hvisited,
    search_stays_within_words farData hnear hfor (z := -4) (by decide +kernel) (by decide)⟩

end LayeredPlot
