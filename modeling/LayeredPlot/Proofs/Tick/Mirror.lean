import LayeredPlot.Proofs.Tick.Standard
import Mathlib.Algebra.Order.Group.MinMax

/-!
# Ticks over mirrored data

The mirror image of data from `low` to `high` are the data from `-high` to `-low`.  The search looks
at data from the left: it counts starts from the first tick, rounds one bound of the starts up and
the other one down, and tests for a tick at zero by a remainder above the first tick.  None of this
tells data from their mirror image.  The candidates over mirrored data are the mirror images of the
candidates, with the same scores, so a search over either data ends with the same score.  It may
choose other ticks only where several have the highest score, for the candidates come in another
order.
-/

namespace LayeredPlot

open Exact

/-!
## Mirror images
-/

def Progression.mirror (p : Progression Exact) : Progression Exact where
  first := neg p.last
  last := neg p.first
  step := p.step

def Candidate.mirror (c : Candidate Exact) : Candidate Exact where
  ticks := c.ticks.mirror
  score := c.score

def Labelling.mirror (l : Labelling Exact) : Labelling Exact where
  family := l.family
  count := l.count
  exponent := l.exponent
  start := -(l.start + ((l.count : Int) - 1) * l.family.skip)

def TickWindow.mirror (w : TickWindow) : TickWindow where
  first := -w.last
  step := w.step
  count := w.count
  step_pos := w.step_pos
  two_le_count := w.two_le_count

def RationalGoal.mirror (goal : RationalGoal) : RationalGoal where
  low := -goal.high
  high := -goal.low
  target := goal.target
  options := goal.options
  low_lt_high := neg_lt_neg goal.low_lt_high
  two_le_target := goal.two_le_target
  valid := goal.valid

protected theorem Exact.neg_neg (x : Exact) : neg (neg x) = x := by
  cases x with
  | value q => exact congrArg value (neg_neg q)
  | infinite => rfl
  | negInfinite => rfl
  | undefined => rfl

theorem Progression.mirror_mirror (p : Progression Exact) : p.mirror.mirror = p := by
  unfold mirror
  rw [Exact.neg_neg, Exact.neg_neg]

theorem Candidate.mirror_mirror (c : Candidate Exact) : c.mirror.mirror = c := by
  unfold mirror
  rw [c.ticks.mirror_mirror]

theorem RationalGoal.mirror_mirror (goal : RationalGoal) : goal.mirror.mirror = goal := by
  rcases goal with ⟨low, high, target, options, _, _, _⟩
  unfold mirror
  simp only [neg_neg]

namespace TickWindow

variable (w : TickWindow)

theorem mirror_span : w.mirror.span = w.span := rfl

theorem mirror_last : w.mirror.last = -w.first := by
  unfold last
  rw [mirror_span]
  unfold mirror last
  ring

theorem mirror_ticks : w.mirror.ticks = w.ticks.mirror := by
  unfold ticks Progression.mirror
  rw [mirror_last]
  rfl

end TickWindow

namespace RationalGoal

variable (goal : RationalGoal) {l : Labelling Exact} {w : TickWindow}

/-!
## Qualities of mirrored ticks
-/

theorem mirror_range : goal.mirror.range = goal.range := by
  unfold range mirror
  ring

theorem coverage_mirror (w : TickWindow) : goal.mirror.coverage w.mirror = goal.coverage w := by
  unfold coverage
  rw [mirror_range, w.mirror_last]
  unfold mirror TickWindow.mirror
  ring

theorem rest_eq (w : TickWindow) : rest w = w.step * Int.fract (w.first / w.step) := by
  have hne := w.step_pos.ne'
  unfold rest Int.fract
  rw [mul_sub, mul_div_cancel₀ w.first hne]

theorem rest_mirror (w : TickWindow) :
    rest w = 0 ∧ rest w.mirror = 0 ∨ rest w.mirror = w.step - rest w := by
  have hfirst : w.mirror.first / w.mirror.step
      = -(w.first / w.step) - ((w.count - 1 : Int) : Rat) := by
    have hne := w.step_pos.ne'
    unfold TickWindow.mirror TickWindow.last TickWindow.span
    push_cast
    field_simp
    ring
  have hstep : w.mirror.step = w.step := rfl
  rw [rest_eq, rest_eq, hfirst, hstep, Int.fract_sub_intCast]
  by_cases h : Int.fract (w.first / w.step) = 0
  · left
    rw [h, Int.fract_neg_eq_zero.mpr h, mul_zero]
    exact ⟨rfl, rfl⟩
  · right
    rw [Int.fract_neg h]
    ring

theorem hasZero_mirror (w : TickWindow) :
    TickGoal.hasZero w.mirror.ticks = true ↔ TickGoal.hasZero w.ticks = true := by
  have hbetween : w.mirror.first ≤ 0 ∧ 0 ≤ w.mirror.last ↔ w.first ≤ 0 ∧ 0 ≤ w.last := by
    rw [w.mirror_last, Left.nonneg_neg_iff, and_comm]
    exact and_congr_right fun _ => Left.neg_nonpos_iff
  have hstep : w.mirror.step = w.step := rfl
  rw [hasZero_ticks_iff, hasZero_ticks_iff, hbetween, hstep]
  apply and_congr_left
  intro _
  rcases rest_mirror w with ⟨hzero, hzero'⟩ | h
  · rw [hzero, hzero']
  · rw [h, sub_sub_cancel, or_comm]

theorem simplicity_mirror (family : StepFamily Exact) (w : TickWindow) :
    goal.mirror.simplicity family w.mirror = goal.simplicity family w := by
  unfold simplicity zeroBonus
  simp only [hasZero_mirror]
  rfl

theorem hull_mirror (w : TickWindow) : goal.mirror.hull w.mirror = goal.hull w := by
  unfold hull
  rw [w.mirror_last]
  unfold mirror TickWindow.mirror
  rw [max_neg_neg, min_neg_neg, neg_sub_neg]

theorem density_mirror (w : TickWindow) : goal.mirror.density w.mirror = goal.density w := by
  have hrate : rate w.mirror = rate w := by
    unfold rate
    rw [w.mirror_last]
    unfold TickWindow.mirror
    ring
  unfold density targetRate
  rw [hrate, hull_mirror]
  rfl

/-!
## Mirrored labellings
-/

theorem isFor_mirror (h : l.IsFor goal.toGoal) : l.mirror.IsFor goal.mirror.toGoal :=
  ⟨h.skip, h.nice, h.count, h.exponent⟩

theorem hasWindow_mirror (h : l.IsFor goal.toGoal) (hw : l.HasWindow w) :
    l.mirror.HasWindow w.mirror := by
  rcases goal.mirror.exists_window_of_isFor (goal.isFor_mirror h) with ⟨v, hv⟩
  have hcount : v.count = w.count := hv.count.trans hw.count.symm
  have hstep : v.step = w.step := Exact.value.inj (hv.step.symm.trans hw.step)
  have hfirst : v.first = -w.last := by
    have hskip := (goal.skip_pos h).ne'
    have hv' : v.first = l.mirror.start * (v.step / l.family.skip) := hv.first
    rw [hv', hstep]
    unfold TickWindow.last TickWindow.span Labelling.mirror
    rw [hw.first, hw.count]
    push_cast
    field_simp
  have heq : v = w.mirror := by
    rcases v with ⟨first, step, count, _, _⟩
    cases hcount
    cases hstep
    cases hfirst
    rfl
  rw [← heq]
  exact hv

theorem firstExponent_mirror : goal.mirror.toGoal.firstExponent = goal.toGoal.firstExponent := by
  funext family count
  unfold TickGoal.firstExponent
  have hrange : goal.mirror.toGoal.high - goal.mirror.toGoal.low
      = goal.toGoal.high - goal.toGoal.low := by
    unfold toGoal mirror
    rw [value_sub, value_sub, neg_sub_neg]
  rw [hrange]

/-- The bound of the starts that is rounded down is the image of the one that is rounded up. -/
theorem isVisited_mirror {origin : StepFamily Exact -> Nat -> Int} (h : l.IsFor goal.toGoal)
    (hvisited : l.IsVisited goal.toGoal origin) :
    l.mirror.IsVisited goal.mirror.toGoal origin := by
  rcases goal.exists_window_of_isFor h with ⟨w, hw⟩
  have hne := w.step_pos.ne'
  have hstep : l.mirror.step = value w.step := hw.step
  have hfirst := hvisited.firstStart_le
  have hlast := hvisited.le_lastStart
  rw [hw.step, goal.firstStart_eq _ _ hne] at hfirst
  rw [hw.step, goal.lastStart_eq _ hne] at hlast
  refine ⟨hvisited.origin_le, ?_, ?_⟩
  · rw [hstep, goal.mirror.firstStart_eq _ _ hne]
    unfold mirror Labelling.mirror
    rw [neg_div, Int.floor_neg]
    linarith
  · rw [hstep, goal.mirror.lastStart_eq _ hne]
    unfold mirror Labelling.mirror
    rw [neg_div, Int.ceil_neg]
    linarith

theorem admits_mirror (w : TickWindow) (h : goal.toGoal.Admits w.ticks) :
    goal.mirror.toGoal.Admits w.mirror.ticks := by
  rw [admits_iff] at h ⊢
  rw [w.mirror_last]
  rcases h with htight | ⟨hfirst, hlast⟩
  · exact Or.inl htight
  · exact Or.inr ⟨neg_le_neg hlast, neg_le_neg hfirst⟩

theorem score_mirror (h : l.IsFor goal.toGoal) :
    l.mirror.score goal.mirror.toGoal = l.score goal.toGoal := by
  rcases goal.exists_window_of_isFor h with ⟨w, hw⟩
  rw [goal.mirror.score_eq_of_hasWindow (goal.hasWindow_mirror h hw),
    goal.score_eq_of_hasWindow hw, coverage_mirror, simplicity_mirror, density_mirror]
  rfl

theorem mirror_mem_candidatesFrom {origin : StepFamily Exact -> Nat -> Int} {c : Candidate Exact}
    (h : c ∈ goal.toGoal.candidatesFrom origin) :
    c.mirror ∈ goal.mirror.toGoal.candidatesFrom origin := by
  rcases Labelling.mem_candidatesFrom_iff.mp h with ⟨l, hfor, hvisited, hadmits, rfl⟩
  rcases goal.exists_window_of_isFor hfor with ⟨w, hw⟩
  have hw' := goal.hasWindow_mirror hfor hw
  have hadmits' : goal.mirror.toGoal.Admits l.mirror.ticks := by
    rw [hw'.ticks]
    exact goal.admits_mirror w (hw.ticks ▸ hadmits)
  refine Labelling.mem_candidatesFrom_iff.mpr ⟨l.mirror, goal.isFor_mirror hfor,
    goal.isVisited_mirror hfor hvisited, hadmits', ?_⟩
  unfold Candidate.mirror
  rw [hw'.ticks, w.mirror_ticks, ← hw.ticks, goal.score_mirror hfor]

theorem mem_candidatesFrom_mirror_iff {origin : StepFamily Exact -> Nat -> Int}
    {c : Candidate Exact} :
    c.mirror ∈ goal.mirror.toGoal.candidatesFrom origin ↔ c ∈ goal.toGoal.candidatesFrom origin := by
  constructor
  · intro h
    have hmirror := goal.mirror.mirror_mem_candidatesFrom h
    rwa [c.mirror_mirror, goal.mirror_mirror] at hmirror
  · exact goal.mirror_mem_candidatesFrom

end RationalGoal

/-!
## Best candidates
-/

structure Candidate.IsBest (c : Candidate Exact) (cs : List (Candidate Exact)) : Prop where
  mem : c ∈ cs
  start_lt : (Incumbent.start : Incumbent Exact).score < c.score
  not_lt : forall d, d ∈ cs -> ¬ c.score < d.score

namespace Candidate

variable {c d : Candidate Exact} {cs : List (Candidate Exact)}

theorem IsFirstBest.isBest (h : c.IsFirstBest cs) : c.IsBest cs where
  mem := h.mem
  start_lt := by
    rw [Incumbent.start_score]
    exact h.start_lt
  not_lt := by
    intro d hd hlt
    exact Exact.not_le_of_lt hlt (h.le hd (isDefined_of_lt hlt).2)

theorem IsBest.exists_isFirstBest (h : c.IsBest cs) : exists d : Candidate Exact, d.IsFirstBest cs :=
  (Incumbent.forall_not_lt_or_exists_isFirstBest cs).resolve_left fun hnone =>
    hnone c h.mem h.start_lt

theorem IsBest.score_eq (hc : c.IsBest cs) (hd : d.IsBest cs) : c.score = d.score := by
  have hdefined := (isDefined_of_lt hc.start_lt).2
  have hdefined' := (isDefined_of_lt hd.start_lt).2
  exact Exact.le_antisymm
    ((Exact.le_or_lt hdefined hdefined').resolve_right (hd.not_lt c hc.mem))
    ((Exact.le_or_lt hdefined' hdefined).resolve_right (hc.not_lt d hd.mem))

end Candidate

namespace RationalGoal

variable (goal : RationalGoal)

def candidates : List (Candidate Exact) :=
  goal.toGoal.candidatesFrom goal.toGoal.firstExponent

theorem mirror_mem_candidates_iff {c : Candidate Exact} :
    c.mirror ∈ goal.mirror.candidates ↔ c ∈ goal.candidates := by
  unfold candidates
  rw [firstExponent_mirror]
  exact goal.mem_candidatesFrom_mirror_iff

theorem isBest_mirror {c : Candidate Exact} (h : c.IsBest goal.candidates) :
    c.mirror.IsBest goal.mirror.candidates where
  mem := goal.mirror_mem_candidates_iff.mpr h.mem
  start_lt := h.start_lt
  not_lt := by
    intro d hd
    rw [← d.mirror_mirror] at hd
    exact h.not_lt d.mirror (goal.mirror_mem_candidates_iff.mp hd)

theorem isBest_mirror_iff {c : Candidate Exact} :
    c.mirror.IsBest goal.mirror.candidates ↔ c.IsBest goal.candidates := by
  constructor
  · intro h
    have hmirror := goal.mirror.isBest_mirror h
    rwa [c.mirror_mirror, goal.mirror_mirror] at hmirror
  · exact goal.isBest_mirror

def IsOnlyBest (p : Progression Exact) : Prop :=
  forall q, (exists c : Candidate Exact, c.IsBest goal.candidates ∧ c.ticks = q) ↔ q = p

theorem isOnlyBest_mirror {p : Progression Exact} (h : goal.IsOnlyBest p) :
    goal.mirror.IsOnlyBest p.mirror := by
  intro q
  constructor
  · intro hbest
    rcases hbest with ⟨c, hc, rfl⟩
    rw [← c.mirror_mirror] at hc
    have hp : c.ticks.mirror = p := (h _).mp ⟨c.mirror, goal.isBest_mirror_iff.mp hc, rfl⟩
    rw [← hp, c.ticks.mirror_mirror]
  · intro hq
    rcases (h p).mpr rfl with ⟨c, hc, rfl⟩
    exact ⟨c.mirror, goal.isBest_mirror hc, hq.symm⟩

/-!
## Searches over both data
-/

theorem chooseTicks_eq_ok_iff (hw : goal.options.weights.NotNegative) (p : Progression Exact) :
    goal.options.chooseTicks (value goal.low) (value goal.high) goal.target = .ok p ↔
      exists c : Candidate Exact, c.IsFirstBest goal.candidates ∧ c.ticks = p := by
  unfold TickOptions.chooseTicks
  rw [chooseTicksFrom_eq_outcome goal hw, outcome_offerAll_eq_ok_iff]
  rfl

theorem exists_chooseTicks_eq_ok_iff (hw : goal.options.weights.NotNegative) :
    (exists p,
      goal.options.chooseTicks (value goal.low) (value goal.high) goal.target = .ok p) ↔
      exists c : Candidate Exact, c.IsBest goal.candidates := by
  constructor
  · intro h
    rcases h with ⟨p, hp⟩
    rcases (goal.chooseTicks_eq_ok_iff hw p).mp hp with ⟨c, hc, _⟩
    exact ⟨c, hc.isBest⟩
  · intro h
    rcases h with ⟨c, hc⟩
    rcases hc.exists_isFirstBest with ⟨d, hd⟩
    exact ⟨d.ticks, (goal.chooseTicks_eq_ok_iff hw d.ticks).mpr ⟨d, hd, rfl⟩⟩

theorem chooseTicks_of_isOnlyBest (hw : goal.options.weights.NotNegative) {p : Progression Exact}
    (h : goal.IsOnlyBest p) :
    goal.options.chooseTicks (value goal.low) (value goal.high) goal.target = .ok p := by
  rcases (h p).mpr rfl with ⟨c, hc, _⟩
  rcases hc.exists_isFirstBest with ⟨d, hd⟩
  exact (goal.chooseTicks_eq_ok_iff hw p).mpr ⟨d, hd, (h d.ticks).mp ⟨d, hd.isBest, rfl⟩⟩

end RationalGoal

/-- A search over mirrored data finds ticks exactly if a search over the data does.  The best
candidates of either search are the mirror images of those of the other one, so the ticks that both
choose have the same score, and where only one progression has the highest score, one search chooses
it and the other one its mirror image. -/
theorem chooseTicks_mirror (goal : RationalGoal) (hw : goal.options.weights.NotNegative) :
    ((exists p,
        goal.options.chooseTicks (value goal.low) (value goal.high) goal.target = .ok p) ↔
      exists p,
        goal.options.chooseTicks (value (-goal.high)) (value (-goal.low)) goal.target = .ok p)
      ∧ (forall c : Candidate Exact,
        c.mirror.IsBest goal.mirror.candidates ↔ c.IsBest goal.candidates)
      ∧ (forall p p',
        goal.options.chooseTicks (value goal.low) (value goal.high) goal.target = .ok p ->
        goal.options.chooseTicks (value (-goal.high)) (value (-goal.low)) goal.target = .ok p' ->
          exists c c' : Candidate Exact, c.IsBest goal.candidates ∧ c.ticks = p
            ∧ c'.IsBest goal.mirror.candidates ∧ c'.ticks = p' ∧ c.score = c'.score)
      ∧ (forall p, goal.IsOnlyBest p ∨ goal.mirror.IsOnlyBest p.mirror ->
        goal.options.chooseTicks (value goal.low) (value goal.high) goal.target = .ok p
          ∧ goal.options.chooseTicks (value (-goal.high)) (value (-goal.low)) goal.target
            = .ok p.mirror) := by
  refine ⟨?_, fun c => goal.isBest_mirror_iff, ?_, ?_⟩
  · refine (goal.exists_chooseTicks_eq_ok_iff hw).trans
      (Iff.trans ?_ (goal.mirror.exists_chooseTicks_eq_ok_iff hw).symm)
    constructor
    · intro h
      rcases h with ⟨c, hc⟩
      exact ⟨c.mirror, goal.isBest_mirror hc⟩
    · intro h
      rcases h with ⟨c, hc⟩
      rw [← c.mirror_mirror] at hc
      exact ⟨c.mirror, goal.isBest_mirror_iff.mp hc⟩
  · intro p p' hp hp'
    rcases (goal.chooseTicks_eq_ok_iff hw p).mp hp with ⟨c, hc, hticks⟩
    rcases (goal.mirror.chooseTicks_eq_ok_iff hw p').mp hp' with ⟨c', hc', hticks'⟩
    exact ⟨c, c', hc.isBest, hticks, hc'.isBest, hticks',
      (goal.isBest_mirror hc.isBest).score_eq hc'.isBest⟩
  · intro p h
    have honly : goal.IsOnlyBest p := by
      rcases h with h | h
      · exact h
      · have hmirror := goal.mirror.isOnlyBest_mirror h
        rwa [goal.mirror_mirror, p.mirror_mirror] at hmirror
    exact ⟨goal.chooseTicks_of_isOnlyBest hw honly,
      goal.mirror.chooseTicks_of_isOnlyBest hw (goal.isOnlyBest_mirror honly)⟩

/-!
## Ticks that divide data evenly
-/

namespace RationalGoal

variable {goal : RationalGoal} {l : Labelling Exact} {w : TickWindow}

theorem ends_eq_of_one_le_coverage (h : 1 ≤ goal.coverage w) :
    w.first = goal.low ∧ w.last = goal.high := by
  have hpos := goal.tenth_range_sq_pos
  have hmissed : (goal.high - w.last) ^ 2 + (goal.low - w.first) ^ 2 ≤ 0 := by
    unfold coverage at h
    have hquotient : 1 / 2 * ((goal.high - w.last) ^ 2 + (goal.low - w.first) ^ 2)
        / (1 / 10 * goal.range) ^ 2 ≤ 0 := by
      linarith
    have hproduct := (div_le_iff₀ hpos).mp hquotient
    linarith
  have hhigh : (goal.high - w.last) ^ 2 = 0 := by
    linarith [sq_nonneg (goal.high - w.last), sq_nonneg (goal.low - w.first)]
  have hlow : (goal.low - w.first) ^ 2 = 0 := by
    linarith [sq_nonneg (goal.high - w.last), sq_nonneg (goal.low - w.first)]
  exact ⟨(sub_eq_zero.mp (pow_eq_zero_iff two_ne_zero |>.mp hlow)).symm,
    (sub_eq_zero.mp (pow_eq_zero_iff two_ne_zero |>.mp hhigh)).symm⟩

theorem step_eq_of_one_le (hcoverage : 1 ≤ goal.coverage w) (hdensity : 1 ≤ goal.density w) :
    w.step = goal.range / (goal.target - 1) := by
  rcases ends_eq_of_one_le_coverage hcoverage with ⟨hfirst, hlast⟩
  have hrange : w.last - w.first = goal.range := by
    rw [hfirst, hlast]
    rfl
  have hhull : goal.hull w = goal.range := by
    unfold hull
    rw [hfirst, hlast, max_self, min_self]
    rfl
  have hratios : max (rate w / goal.targetRate w) (goal.targetRate w / rate w) ≤ 1 := by
    unfold density at hdensity
    linarith
  have hrate : rate w = goal.targetRate w :=
    le_antisymm ((div_le_one (goal.targetRate_pos w)).mp (max_le_iff.mp hratios).1)
      ((div_le_one (rate_pos w)).mp (max_le_iff.mp hratios).2)
  have hcount : (w.count : Rat) - 1 = goal.target - 1 := by
    unfold rate targetRate at hrate
    rw [hhull, hrange] at hrate
    exact (div_left_inj' goal.range_pos.ne').mp hrate
  have hgaps := (lt_of_lt_of_le one_pos goal.one_le_target_gaps).ne'
  rw [eq_div_iff hgaps, ← hrange, ← hcount]
  unfold TickWindow.last TickWindow.span
  ring

end RationalGoal

def fourUnits : RationalGoal :=
  standardGoal 0 4 (by norm_num) false

def unitTicks : Progression Exact where
  first := value 0
  last := value 4
  step := value 1

theorem unitTicks_mem_candidates :
    { ticks := unitTicks, score := value 1 } ∈ fourUnits.candidates := by
  let l : Labelling Exact := ⟨⟨1, 0, value 1⟩, 5, 0, 0⟩
  have hfor : l.IsFor fourUnits.toGoal :=
    ⟨by decide, congrArg some one_eq, by decide, by decide⟩
  have hlabelling : fourUnits.toGoal.Encloses l.ticks ∧ fourUnits.toGoal.Admits l.ticks
      ∧ l.ticks = unitTicks ∧ l.score fourUnits.toGoal = value 1 := by
    decide +kernel
  rcases hlabelling with ⟨hencloses, hadmits, hticks, hscore⟩
  refine Labelling.mem_candidatesFrom_iff.mpr
    ⟨l, hfor, fourUnits.isVisited_of_encloses hfor hencloses, hadmits, ?_⟩
  rw [hticks, hscore]

theorem score_fourUnits {c : Candidate Exact} (h : c ∈ fourUnits.candidates) :
    ¬ value 1 < c.score ∧ (¬ c.score < value 1 -> c.ticks = unitTicks) := by
  rcases Labelling.mem_candidatesFrom_iff.mp h with ⟨l, hfor, _, _, rfl⟩
  rcases fourUnits.exists_window_of_isFor hfor with ⟨w, hw⟩
  have hskip : (1 : Rat) ≤ l.family.skip := Nat.one_le_cast.mpr hfor.skip.1
  have hpenalty := fourUnits.penalty_nonneg l.family.rank
  have hcoverage := (fourUnits.coverage_le_ceiling w).trans (fourUnits.coverageCeiling_le_one w.span)
  have hdensity := fourUnits.density_le_one w
  have hsimplicity : fourUnits.simplicity l.family w ≤ 1 := by
    have hceiling := fourUnits.simplicity_le_ceiling l.family w
    unfold RationalGoal.simplicityCeiling at hceiling
    linarith
  have hscore : l.score fourUnits.toGoal = value (1 / 5 * fourUnits.coverage w
      + 1 / 4 * fourUnits.simplicity l.family w + 1 / 2 * fourUnits.density w + 1 / 20) := by
    rw [fourUnits.score_eq_of_hasWindow hw]
    exact standardGoal_weigh _ _ _ _ _
  simp only [hscore, value_lt_value, not_lt]
  refine ⟨by linarith, ?_⟩
  intro htop
  have hcoverage' : 1 ≤ fourUnits.coverage w := by linarith
  have hdensity' : 1 ≤ fourUnits.density w := by linarith
  rcases RationalGoal.ends_eq_of_one_le_coverage hcoverage' with ⟨hfirst, hlast⟩
  have hstep : w.step = 1 := by
    rw [RationalGoal.step_eq_of_one_le hcoverage' hdensity']
    unfold RationalGoal.range fourUnits standardGoal
    norm_num
  rw [hw.ticks]
  unfold TickWindow.ticks unitTicks
  rw [hfirst, hlast, hstep]
  rfl

theorem isOnlyBest_unitTicks : fourUnits.IsOnlyBest unitTicks := by
  have hdefined : value (-2) < value 1 := value_lt_value.mpr (by norm_num)
  intro q
  constructor
  · intro h
    rcases h with ⟨c, hc, rfl⟩
    exact (score_fourUnits hc.mem).2 (hc.not_lt _ unitTicks_mem_candidates)
  · intro hq
    refine ⟨{ ticks := unitTicks, score := value 1 }, ⟨unitTicks_mem_candidates, ?_, ?_⟩, hq.symm⟩
    · rw [Incumbent.start_score]
      exact hdefined
    · intro d hd
      exact (score_fourUnits hd).1

theorem chooseTicks_mirror_fourUnits :
    fourUnits.options.weights.NotNegative ∧ fourUnits.IsOnlyBest unitTicks
      ∧ (TickOptions.standard : TickOptions Exact).chooseTicks (value (-4)) (value 0) 5
        = .ok { first := value (-4), last := value 0, step := value 1 } := by
  have hmirror := (chooseTicks_mirror fourUnits standardWeights_notNegative).2.2.2 unitTicks
    (Or.inl isOnlyBest_unitTicks)
  exact ⟨standardWeights_notNegative, isOnlyBest_unitTicks, hmirror.2⟩

end LayeredPlot
