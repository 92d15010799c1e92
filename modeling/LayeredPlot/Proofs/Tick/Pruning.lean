import LayeredPlot.Proofs.Tick.Selection

/-!
# Pruning keeps the best ticks

The search for ticks leaves a level of its enumeration once a ceiling is below
the best score so far.  Over rational data, with weights that do not reward bad
qualities, nothing that it leaves out could be taken any more: the search ends
with the same ticks as one that goes through all candidates, and these are the
first with the highest score.
-/

namespace LayeredPlot

open Exact

/-- Weights under which a better quality never makes a score worse. -/
structure Weights.NotNegative (w : Weights Exact) : Prop where
  coverage : (0.0 : Exact) ≤ w.coverage
  simplicity : (0.0 : Exact) ≤ w.simplicity
  density : (0.0 : Exact) ≤ w.density

namespace RationalGoal

variable (goal : RationalGoal)

/-!
## Ceilings bound what comes later
-/

theorem not_weigh_lt_weigh (hw : goal.options.weights.NotNegative) {c c' s s' g g' : Rat}
    (hc : c ≤ c') (hs : s ≤ s') (hg : g ≤ g') :
    ¬ goal.toGoal.weigh (value c') (value s') (value g')
      < goal.toGoal.weigh (value c) (value s) (value g) := by
  have hcoverage := not_mul_lt_mul hw.coverage hc
  have hsimplicity := not_mul_lt_mul hw.simplicity hs
  have hdensity := not_mul_lt_mul hw.density hg
  exact not_add_lt_add (not_add_lt_add (not_add_lt_add hcoverage hsimplicity) hdensity)
    (not_self_lt _)

theorem familyCeiling_eq (family : StepFamily Exact) :
    goal.toGoal.familyCeiling family
      = goal.toGoal.weigh (value 1) (value (goal.simplicityCeiling family)) (value 1) := by
  simp only [TickGoal.familyCeiling, TickGoal.weigh, toGoal_simplicityCeiling, mul_value_one]

theorem countCeiling_eq (family : StepFamily Exact) (count : Nat) :
    goal.toGoal.countCeiling family count
      = goal.toGoal.weigh (value 1) (value (goal.simplicityCeiling family))
          (value (goal.densityCeiling count)) := by
  simp only [TickGoal.countCeiling, TickGoal.weigh, toGoal_simplicityCeiling,
    toGoal_densityCeiling, mul_value_one]

theorem stepCeiling_eq (family : StepFamily Exact) (count : Nat) (step : Rat) :
    goal.toGoal.stepCeiling family count (value step)
      = goal.toGoal.weigh (value (goal.coverageCeiling (step * (count - 1))))
          (value (goal.simplicityCeiling family)) (value (goal.densityCeiling count)) := by
  simp only [TickGoal.stepCeiling, toGoal_simplicityCeiling, toGoal_densityCeiling, ofNat_eq,
    one_eq, value_sub, value_mul, toGoal_coverageCeiling]

variable {goal}

theorem not_lt_score (hw : goal.options.weights.NotNegative) {inc : Incumbent Exact}
    {family : StepFamily Exact} {w : TickWindow} {c' s' g' : Rat}
    (hceiling : goal.toGoal.weigh (value c') (value s') (value g') < inc.score)
    (hc : goal.coverage w ≤ c') (hs : goal.simplicity family w ≤ s') (hg : goal.density w ≤ g') :
    ¬ inc.score < goal.toGoal.weigh (value (goal.coverage w)) (value (goal.simplicity family w))
        (value (goal.density w)) := by
  intro h
  exact goal.not_weigh_lt_weigh hw hc hs hg (Exact.lt_trans hceiling h)

theorem visitExponent_eq_self (hw : goal.options.weights.NotNegative)
    {family : StepFamily Exact} (hfamily : family ∈ goal.toGoal.families) {count : Nat}
    (hcount : count ∈ TickGoal.counts) {inc : Incumbent Exact} {z z' : Int}
    (hleaves : goal.toGoal.leavesExponent family count inc z = true) (hz : z ≤ z') :
    goal.toGoal.visitExponent family count inc z' = inc := by
  rcases goal.exists_step hfamily with ⟨q, _, _, hstep⟩
  have hceiling := of_decide_eq_true hleaves
  rw [hstep z, goal.stepCeiling_eq] at hceiling
  rw [TickGoal.visitExponent_eq_offerAll]
  apply Incumbent.offerAll_eq_self
  intro c hc
  rcases goal.exists_window hfamily hcount hc with ⟨w, rfl, hw', _, hscore⟩
  have hspan : family.skip * q * (10 : Rat) ^ z * (w.count - 1) ≤ w.span :=
    mul_le_mul_of_nonneg_right (goal.step_mono hfamily hz (hstep z) hw')
      (le_trans zero_le_one w.one_le_gaps)
  rw [hscore]
  exact not_lt_score hw hceiling
    (le_trans (goal.coverage_le_ceiling w) (goal.coverageCeiling_anti hspan))
    (goal.simplicity_le_ceiling family w) (goal.density_le_ceiling w)

theorem exhaustCount_eq_self (hw : goal.options.weights.NotNegative)
    {family : StepFamily Exact} (hfamily : family ∈ goal.toGoal.families)
    (origin : StepFamily Exact -> Nat -> Int) {count count' : Nat}
    (hcount' : count' ∈ TickGoal.counts) {inc : Incumbent Exact}
    (hleaves : goal.toGoal.leavesCount family inc count = true) (h : count ≤ count') :
    goal.toGoal.exhaustCount origin family inc count' = inc := by
  have hceiling := of_decide_eq_true hleaves
  rw [goal.countCeiling_eq] at hceiling
  rw [TickGoal.exhaustCount_eq_offerAll]
  apply Incumbent.offerAll_eq_self
  intro c hc
  rcases TickGoal.mem_candidatesOf.mp hc with ⟨z, _, _, hc⟩
  rcases goal.exists_window hfamily hcount' hc with ⟨w, rfl, _, _, hscore⟩
  rw [hscore]
  exact not_lt_score hw hceiling
    (le_trans (goal.coverage_le_ceiling w) (goal.coverageCeiling_le_one w.span))
    (goal.simplicity_le_ceiling family w)
    (le_trans (goal.density_le_ceiling w) (goal.densityCeiling_anti h))

theorem exhaustFamily_eq_self (hw : goal.options.weights.NotNegative)
    {family family' : StepFamily Exact} (hfamily : family ∈ goal.toGoal.families)
    (hfamily' : family' ∈ goal.toGoal.families) (origin : StepFamily Exact -> Nat -> Int)
    {inc : Incumbent Exact} (hleaves : goal.toGoal.leavesFamily inc family = true)
    (h : family = family' ∨ family.Precedes family') :
    TickGoal.counts.foldl (goal.toGoal.exhaustCount origin family') inc = inc := by
  have hceiling := of_decide_eq_true hleaves
  rw [goal.familyCeiling_eq] at hceiling
  have hsimplicity : goal.simplicityCeiling family' ≤ goal.simplicityCeiling family := by
    rcases h with rfl | h
    · exact le_refl _
    · exact goal.simplicityCeiling_anti hfamily h
  apply foldl_eq_self
  intro count hcount
  rw [TickGoal.exhaustCount_eq_offerAll]
  apply Incumbent.offerAll_eq_self
  intro c hc
  rcases TickGoal.mem_candidatesOf.mp hc with ⟨z, _, _, hc⟩
  rcases goal.exists_window hfamily' hcount hc with ⟨w, rfl, _, _, hscore⟩
  rw [hscore]
  exact not_lt_score hw hceiling
    (le_trans (goal.coverage_le_ceiling w) (goal.coverageCeiling_le_one w.span))
    (le_trans (goal.simplicity_le_ceiling family' w) hsimplicity)
    (goal.density_le_one w)

/-!
## Each level may be left early
-/

theorem visitCount_eq_exhaustCount (hw : goal.options.weights.NotNegative)
    {family : StepFamily Exact} (hfamily : family ∈ goal.toGoal.families)
    (origin : StepFamily Exact -> Nat -> Int) {count : Nat} (hcount : count ∈ TickGoal.counts)
    (inc : Incumbent Exact) :
    goal.toGoal.visitCount origin family inc count
      = goal.toGoal.exhaustCount origin family inc count := by
  unfold TickGoal.visitCount TickGoal.exhaustCount
  rw [foldUpUntil_eq_foldUntil, foldUp_eq_foldl]
  apply foldUntil_eq_foldl (upFrom_sorted _ _) (fun _ _ _ => rfl)
  intro inc z _ hleaves z' _ h
  exact visitExponent_eq_self hw hfamily hcount hleaves (h.elim Int.le_of_eq Int.le_of_lt)

theorem visitFamily_eq_foldl (hw : goal.options.weights.NotNegative)
    {family : StepFamily Exact} (hfamily : family ∈ goal.toGoal.families)
    (origin : StepFamily Exact -> Nat -> Int) (inc : Incumbent Exact) :
    goal.toGoal.visitFamily origin inc family
      = TickGoal.counts.foldl (goal.toGoal.exhaustCount origin family) inc := by
  unfold TickGoal.visitFamily
  apply foldUntil_eq_foldl TickGoal.counts_sorted
  · intro inc count hcount
    exact visitCount_eq_exhaustCount hw hfamily origin hcount inc
  · intro inc count _ hleaves count' hcount' h
    exact exhaustCount_eq_self hw hfamily origin hcount' hleaves (h.elim Nat.le_of_eq Nat.le_of_lt)

theorem searchFrom_eq_exhaustFrom (hw : goal.options.weights.NotNegative)
    (origin : StepFamily Exact -> Nat -> Int) :
    goal.toGoal.searchFrom origin = goal.toGoal.exhaustFrom origin := by
  unfold TickGoal.searchFrom TickGoal.exhaustFrom
  apply foldUntil_eq_foldl goal.toGoal.families_sorted
  · intro inc family hfamily
    exact visitFamily_eq_foldl hw hfamily origin inc
  · intro inc family hfamily hleaves family' hfamily' h
    exact exhaustFamily_eq_self hw hfamily hfamily' origin hleaves h

end RationalGoal

/-!
## Chosen ticks
-/

theorem outcome_offerAll_eq_ok_iff (low high : Exact) (cs : List (Candidate Exact))
    (p : Progression Exact) :
    TickOptions.outcome low high (Incumbent.start.offerAll cs) = .ok p ↔
      exists c : Candidate Exact, c.IsFirstBest cs ∧ c.ticks = p := by
  constructor
  · intro h
    rcases Incumbent.forall_not_lt_or_exists_isFirstBest cs with hnone | ⟨c, hc⟩
    · rw [Incumbent.offerAll_eq_self hnone] at h
      cases h
    · rw [Incumbent.offerAll_of_isFirstBest hc] at h
      cases h
      exact ⟨c, hc, rfl⟩
  · intro h
    rcases h with ⟨c, hc, rfl⟩
    rw [Incumbent.offerAll_of_isFirstBest hc]
    rfl

theorem outcome_offerAll_eq_error_iff (low high : Exact) (cs : List (Candidate Exact)) :
    TickOptions.outcome low high (Incumbent.start.offerAll cs)
        = .error (.ticksExhausted low high) ↔
      forall c, c ∈ cs -> ¬ (Incumbent.start : Incumbent Exact).score < c.score := by
  constructor
  · intro h
    rcases Incumbent.forall_not_lt_or_exists_isFirstBest cs with hnone | ⟨c, hc⟩
    · exact hnone
    · rw [Incumbent.offerAll_of_isFirstBest hc] at h
      cases h
  · intro hnone
    rw [Incumbent.offerAll_eq_self hnone]
    rfl

theorem chooseTicksFrom_eq_outcome (goal : RationalGoal)
    (hw : goal.options.weights.NotNegative)
    (origin : TickGoal Exact -> StepFamily Exact -> Nat -> Int) :
    goal.options.chooseTicksFrom origin (value goal.low) (value goal.high) goal.target
      = TickOptions.outcome (value goal.low) (value goal.high)
          (Incumbent.start.offerAll (goal.toGoal.candidatesFrom (origin goal.toGoal))) := by
  unfold TickOptions.chooseTicksFrom
  rw [goal.goal_eq_toGoal, ← TickGoal.exhaustFrom_eq_offerAll,
    ← RationalGoal.searchFrom_eq_exhaustFrom hw]
  rfl

/-- Whatever power of ten each family starts from, the chosen ticks are those that an exhaustive
search chooses: the first candidate with the highest score. -/
theorem chooseTicksFrom_eq_exhaustive (goal : RationalGoal)
    (hw : goal.options.weights.NotNegative)
    (origin : TickGoal Exact -> StepFamily Exact -> Nat -> Int) :
    goal.options.chooseTicksFrom origin (value goal.low) (value goal.high) goal.target
        = goal.options.chooseTicksExhaustively origin (value goal.low) (value goal.high)
            goal.target
      ∧ (forall p,
        goal.options.chooseTicksFrom origin (value goal.low) (value goal.high) goal.target = .ok p
          ↔ exists c : Candidate Exact,
              c.IsFirstBest (goal.toGoal.candidatesFrom (origin goal.toGoal)) ∧ c.ticks = p)
      ∧ (goal.options.chooseTicksFrom origin (value goal.low) (value goal.high) goal.target
            = .error (.ticksExhausted (value goal.low) (value goal.high))
          ↔ forall c, c ∈ goal.toGoal.candidatesFrom (origin goal.toGoal) ->
              ¬ (Incumbent.start : Incumbent Exact).score < c.score) := by
  rw [chooseTicksFrom_eq_outcome goal hw origin]
  refine ⟨?_, ?_, ?_⟩
  · unfold TickOptions.chooseTicksExhaustively
    rw [goal.goal_eq_toGoal, ← TickGoal.exhaustFrom_eq_offerAll]
    rfl
  · intro p
    exact outcome_offerAll_eq_ok_iff _ _ _ p
  · exact outcome_offerAll_eq_error_iff _ _ _

theorem chooseTicks_zero_ten_eq_exhaustive :
    (TickOptions.standard : TickOptions Exact).weights.NotNegative
      ∧ (TickOptions.standard : TickOptions Exact).chooseTicks (value 0) (value 10) 5
        = TickOptions.standard.chooseTicksExhaustively TickGoal.firstExponent (value 0) (value 10)
            5 := by
  have hw : (TickOptions.standard : TickOptions Exact).weights.NotNegative :=
    ⟨by decide +kernel, by decide +kernel, by decide +kernel⟩
  have hvalid : (TickOptions.standard : TickOptions Exact).fault? = none := by decide +kernel
  let goal : RationalGoal :=
    { low := 0, high := 10, target := 5, options := TickOptions.standard,
      low_lt_high := by norm_num, two_le_target := by norm_num, valid := hvalid }
  exact ⟨hw, (chooseTicksFrom_eq_exhaustive goal hw TickGoal.firstExponent).left⟩

end LayeredPlot
