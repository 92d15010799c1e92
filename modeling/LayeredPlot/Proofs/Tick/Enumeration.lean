import LayeredPlot.Proofs.Tick.Quality
import LayeredPlot.Tick.Candidates

/-!
# The ticks that a search goes through

Every candidate of a search over rational data is a window of ticks whose score
weighs rational qualities.  Families come in the order of their simplicity
ceilings, numbers of ticks and steps come in increasing order.
-/

namespace LayeredPlot

open Exact

/-!
## Levels of the enumeration
-/

theorem mem_upFrom {first x : Int} {n : Nat} :
    x ∈ upFrom first n ↔ first ≤ x ∧ x < first + n := by
  unfold upFrom
  rw [List.mem_map]
  constructor
  · intro h
    rcases h with ⟨i, hi, rfl⟩
    have h := List.mem_range.mp hi
    constructor
    · exact Int.le_add_of_nonneg_right (Int.natCast_nonneg i)
    · exact Int.add_lt_add_left (Int.ofNat_lt.mpr h) first
  · intro h
    rcases h with ⟨hfirst, hlast⟩
    refine ⟨(x - first).toNat, List.mem_range.mpr (by omega), ?_⟩
    show first + ((x - first).toNat : Int) = x
    omega

theorem upFrom_succ (first : Int) (n : Nat) :
    upFrom first (n + 1) = first :: upFrom (first + 1) n := by
  unfold upFrom
  rw [List.range_succ_eq_map, List.map_cons, List.map_map]
  congr 1
  · exact Int.add_zero first
  · apply List.map_congr_left
    intro i _
    show first + ((i + 1 : Nat) : Int) = first + 1 + (i : Int)
    push_cast
    ring

theorem upFrom_sorted (first : Int) (n : Nat) : (upFrom first n).Pairwise (· < ·) := by
  unfold upFrom
  refine List.pairwise_map.mpr (List.pairwise_lt_range.imp ?_)
  intro i j h
  exact Int.add_lt_add_left (Int.ofNat_lt.mpr h) first

def StepFamily.Precedes {num : Type} (f f' : StepFamily num) : Prop :=
  f.skip < f'.skip ∨ f.skip = f'.skip ∧ f.rank < f'.rank

namespace TickGoal

theorem mem_counts {k : Nat} : k ∈ counts ↔ 2 ≤ k ∧ k < countBound := by
  unfold counts
  rw [List.mem_range'_1]
  simp only [countBound]

theorem counts_sorted : counts.Pairwise (· < ·) :=
  List.pairwise_lt_range'

variable {num : Type}

theorem mem_families {goal : TickGoal num} {family : StepFamily num} :
    family ∈ goal.families ↔ 1 ≤ family.skip ∧ family.skip < countBound
      ∧ goal.options.niceSteps[family.rank]? = some family.nice := by
  unfold families
  simp only [List.mem_flatMap, List.mem_range'_1, List.mem_map, Prod.exists,
    List.mem_zipIdx_iff_getElem?]
  constructor
  · intro h
    rcases h with ⟨skip, ⟨hlow, hhigh⟩, nice, rank, hnice, rfl⟩
    exact ⟨hlow, by simp only [countBound] at hhigh ⊢; omega, hnice⟩
  · intro h
    rcases h with ⟨hlow, hhigh, hnice⟩
    refine ⟨family.skip, ⟨hlow, ?_⟩, family.nice, family.rank, hnice, rfl⟩
    simp only [countBound] at hhigh ⊢
    omega

theorem families_sorted (goal : TickGoal num) : goal.families.Pairwise StepFamily.Precedes := by
  unfold families
  refine List.pairwise_flatMap.mpr ⟨?_, List.Pairwise.imp ?_ List.pairwise_lt_range'⟩
  · intro skip _
    have hranks : goal.options.niceSteps.zipIdx.Pairwise fun e f => e.2 < f.2 := by
      apply List.pairwise_map.mp
      rw [List.zipIdx_map_snd]
      exact List.pairwise_lt_range'
    refine List.pairwise_map.mpr (hranks.imp ?_)
    intro e f h
    exact Or.inr ⟨rfl, h⟩
  · intro skip skip' h f hf f' hf'
    rcases List.mem_map.mp hf with ⟨_, _, rfl⟩
    rcases List.mem_map.mp hf' with ⟨_, _, rfl⟩
    exact Or.inl h

variable [Scalar num]

theorem mem_candidatesAt {goal : TickGoal num} {family : StepFamily num} {count : Nat}
    {exponent : Int} {c : Candidate num} :
    c ∈ goal.candidatesAt family count exponent ↔
      exists start, goal.firstStart family count (family.step exponent) ≤ start
        ∧ start ≤ goal.lastStart family (family.step exponent)
        ∧ goal.Admits (family.ticksFrom count (family.step exponent) start)
        ∧ c = { ticks := family.ticksFrom count (family.step exponent) start,
                score := goal.score family count
                  (family.ticksFrom count (family.step exponent) start) } := by
  unfold candidatesAt
  rw [List.mem_filterMap]
  constructor
  · intro h
    rcases h with ⟨start, hstart, hc⟩
    rcases mem_upFrom.mp hstart with ⟨hfirst, hlast⟩
    by_cases h : goal.Admits (family.ticksFrom count (family.step exponent) start)
    · rw [if_pos h] at hc
      exact ⟨start, hfirst, by omega, h, (Option.some.inj hc).symm⟩
    · rw [if_neg h] at hc
      cases hc
  · intro h
    rcases h with ⟨start, hfirst, hlast, h, rfl⟩
    refine ⟨start, mem_upFrom.mpr ⟨hfirst, by omega⟩, ?_⟩
    rw [if_pos h]

end TickGoal

namespace TickOptions

theorem exists_nice_of_fault?_eq_none {options : TickOptions Exact} (h : options.fault? = none)
    {x : Exact} (hx : x ∈ options.niceSteps) : exists q : Rat, x = value q ∧ 0 < q := by
  unfold fault? at h
  split at h
  · cases h
  · have hnone := Option.map_eq_none_iff.mp h
    have hnice := List.find?_eq_none.mp hnone x hx
    simp only [not_not, decide_eq_true_eq] at hnice
    rcases isFinite_iff.mp hnice.left with ⟨q, rfl⟩
    have hpos := hnice.right
    rw [zero_eq, value_lt_value] at hpos
    exact ⟨q, rfl, hpos⟩

end TickOptions

namespace RationalGoal

variable (goal : RationalGoal)

/-!
## Candidates are windows
-/

theorem exists_step {family : StepFamily Exact} (h : family ∈ goal.toGoal.families) :
    exists q : Rat, family.nice = value q ∧ 0 < family.skip * q
      ∧ forall z, family.step z = value (family.skip * q * (10 : Rat) ^ z) := by
  rcases TickGoal.mem_families.mp h with ⟨hskip, _, hnice⟩
  rcases TickOptions.exists_nice_of_fault?_eq_none goal.valid (List.mem_of_getElem? hnice) with
    ⟨q, hq, hpos⟩
  refine ⟨q, hq, mul_pos (Nat.cast_pos.mpr hskip) hpos, ?_⟩
  intro z
  rw [StepFamily.step, hq]
  rfl

theorem ticksFrom_eq (family : StepFamily Exact) (hskip : 1 ≤ family.skip) {step : Rat}
    (hstep : 0 < step) {count : Nat} (hcount : 2 ≤ count) (start : Int) :
    family.ticksFrom count (value step) start
      = (TickWindow.mk (start * (step / family.skip)) step count hstep hcount).ticks := by
  have hne : (family.skip : Rat) ≠ 0 := Nat.cast_ne_zero.mpr (by omega)
  simp only [StepFamily.ticksFrom, StepFamily.skipped, ofInt_eq, ofNat_eq, one_eq, value_sub,
    value_div _ hne, value_mul, value_add]
  rfl

theorem advances (w : TickWindow) (x : Rat) :
    Progression.Advances (value x) w.ticks.step := by
  show value x < value x + value w.step
  rw [value_add, value_lt_value]
  exact lt_add_of_pos_right x w.step_pos

theorem admits_iff (w : TickWindow) :
    goal.toGoal.Admits w.ticks ↔
      goal.options.loose = false ∨ w.first ≤ goal.low ∧ goal.high ≤ w.last := by
  rw [← value_le_value, ← value_le_value]
  constructor
  · intro h
    exact h.right.right
  · intro h
    exact ⟨advances w w.first, advances w w.last, h⟩

theorem score_eq (family : StepFamily Exact) (w : TickWindow) :
    goal.toGoal.score family w.count w.ticks
      = goal.toGoal.weigh (value (goal.coverage w)) (value (goal.simplicity family w))
          (value (goal.density w)) := by
  rw [TickGoal.score, toGoal_coverage, toGoal_simplicity, toGoal_density]

theorem exists_window {family : StepFamily Exact} (hfamily : family ∈ goal.toGoal.families)
    {count : Nat} (hcount : count ∈ TickGoal.counts) {exponent : Int} {c : Candidate Exact}
    (hc : c ∈ goal.toGoal.candidatesAt family count exponent) :
    exists w : TickWindow, w.count = count ∧ family.step exponent = value w.step
      ∧ c.ticks = w.ticks
      ∧ c.score = goal.toGoal.weigh (value (goal.coverage w)) (value (goal.simplicity family w))
          (value (goal.density w)) := by
  rcases goal.exists_step hfamily with ⟨q, _, hpos, hstep⟩
  rcases TickGoal.mem_candidatesAt.mp hc with ⟨start, _, _, _, rfl⟩
  have hskip := (TickGoal.mem_families.mp hfamily).left
  have hstepPos : 0 < family.skip * q * (10 : Rat) ^ exponent :=
    mul_pos hpos (zpow_pos (by norm_num) exponent)
  rw [hstep exponent, ticksFrom_eq family hskip hstepPos (TickGoal.mem_counts.mp hcount).left]
  exact ⟨_, rfl, rfl, rfl, goal.score_eq family _⟩

/-!
## Order of the enumeration
-/

theorem step_mono {family : StepFamily Exact} (h : family ∈ goal.toGoal.families) {z z' : Int}
    (hz : z ≤ z') {s s' : Rat} (hs : family.step z = value s) (hs' : family.step z' = value s') :
    s ≤ s' := by
  rcases goal.exists_step h with ⟨q, _, hpos, hstep⟩
  rw [hstep] at hs hs'
  cases hs
  cases hs'
  exact mul_le_mul_of_nonneg_left (zpow_le_zpow_right₀ (by norm_num) hz) hpos.le

theorem simplicityCeiling_anti {f f' : StepFamily Exact} (hf : f ∈ goal.toGoal.families)
    (h : f.Precedes f') : goal.simplicityCeiling f' ≤ goal.simplicityCeiling f := by
  unfold simplicityCeiling
  rcases h with hskip | ⟨hskip, hrank⟩
  · have hnonneg := goal.penalty_nonneg f'.rank
    rcases TickGoal.mem_families.mp hf with ⟨_, _, hnice⟩
    have hone := goal.penalty_le_one (List.getElem?_eq_some_iff.mp hnice).1
    have hcast : ((f.skip + 1 : Nat) : Rat) ≤ f'.skip := Nat.cast_le.mpr hskip
    push_cast at hcast
    linarith
  · have hpenalty := goal.penalty_mono hrank.le
    rw [hskip]
    linarith

end RationalGoal
end LayeredPlot
