import LayeredPlot.Proofs.Number.Decade
import LayeredPlot.Proofs.Tick.Choice
import LayeredPlot.Proofs.Tick.Pruning

/-!
# No enclosing ticks are missed

A labelling is any choice of a family, a number of ticks, a power of ten and a
start.  The search goes through labellings whose power of ten and start are within
bounds that it computes from the data.  Ticks that reach to both ends of the data
are always within these bounds, so the search for such ticks finds the best of all.
-/

namespace LayeredPlot

open Exact

structure Labelling (num : Type) where
  family : StepFamily num
  count : Nat
  exponent : Int
  start : Int

namespace Labelling

variable {num : Type} {l : Labelling num} {goal : TickGoal num}

/-- The ranges that labellings for a goal are taken from; the start may be any integer. -/
structure IsFor (l : Labelling num) (goal : TickGoal num) : Prop where
  skip : 1 ≤ l.family.skip ∧ l.family.skip ≤ 99
  nice : goal.options.niceSteps[l.family.rank]? = some l.family.nice
  count : 2 ≤ l.count ∧ l.count ≤ 99
  exponent : l.exponent < 100

theorem IsFor.family_mem (h : l.IsFor goal) : l.family ∈ goal.families := by
  have hskip := h.skip
  exact TickGoal.mem_families.mpr ⟨hskip.1, Nat.lt_succ_of_le hskip.2, h.nice⟩

theorem IsFor.count_mem (h : l.IsFor goal) : l.count ∈ TickGoal.counts := by
  have hcount := h.count
  exact TickGoal.mem_counts.mpr ⟨hcount.1, Nat.lt_succ_of_le hcount.2⟩

variable [Scalar num] {origin : StepFamily num -> Nat -> Int}

def step (l : Labelling num) : num :=
  l.family.step l.exponent

def ticks (l : Labelling num) : Progression num :=
  l.family.ticksFrom l.count l.step l.start

def score (l : Labelling num) (goal : TickGoal num) : num :=
  goal.score l.family l.count l.ticks

/-- The search looks at the powers of ten of a labelling from its origin on, and at the starts
between the first and the last that it computes. -/
structure IsVisited (l : Labelling num) (goal : TickGoal num)
    (origin : StepFamily num -> Nat -> Int) : Prop where
  origin_le : origin l.family l.count ≤ l.exponent
  firstStart_le : goal.firstStart l.family l.count l.step ≤ l.start
  le_lastStart : l.start ≤ goal.lastStart l.family l.step

structure HasWindow (l : Labelling Exact) (w : TickWindow) : Prop where
  ticks : l.ticks = w.ticks
  count : w.count = l.count
  step : l.step = value w.step
  first : w.first = l.start * (w.step / l.family.skip)

theorem mem_candidatesFrom_iff {c : Candidate num} :
    c ∈ goal.candidatesFrom origin ↔
      exists l : Labelling num, l.IsFor goal ∧ l.IsVisited goal origin ∧ goal.Admits l.ticks ∧
        c = { ticks := l.ticks, score := l.score goal } := by
  rw [TickGoal.mem_candidatesFrom]
  constructor
  · intro h
    rcases h with ⟨family, hfamily, count, hcount, hc⟩
    rcases TickGoal.mem_candidatesOf.mp hc with ⟨exponent, horigin, hexponent, hc⟩
    rcases TickGoal.mem_candidatesAt.mp hc with ⟨start, hfirst, hlast, hadmits, rfl⟩
    rcases TickGoal.mem_families.mp hfamily with ⟨hskip, hskip', hnice⟩
    rcases TickGoal.mem_counts.mp hcount with ⟨hcount, hcount'⟩
    exact ⟨⟨family, count, exponent, start⟩,
      ⟨⟨hskip, Nat.le_of_lt_succ hskip'⟩, hnice, ⟨hcount, Nat.le_of_lt_succ hcount'⟩, hexponent⟩,
      ⟨horigin, hfirst, hlast⟩, hadmits, rfl⟩
  · intro h
    rcases h with ⟨l, hfor, hvisited, hadmits, rfl⟩
    refine ⟨l.family, hfor.family_mem, l.count, hfor.count_mem, ?_⟩
    refine TickGoal.mem_candidatesOf.mpr ⟨l.exponent, hvisited.origin_le, hfor.exponent, ?_⟩
    exact TickGoal.mem_candidatesAt.mpr
      ⟨l.start, hvisited.firstStart_le, hvisited.le_lastStart, hadmits, rfl⟩

theorem step_eq {l : Labelling Exact} {q : Rat} (hnice : l.family.nice = value q) :
    l.step = value (l.family.skip * q * (10 : Rat) ^ l.exponent) := by
  unfold step StepFamily.step
  rw [hnice]
  rfl

theorem exists_window {l : Labelling Exact} {q : Rat} (hskip : 1 ≤ l.family.skip)
    (hnice : l.family.nice = value q) (hpos : 0 < q) (hcount : 2 ≤ l.count) :
    exists w : TickWindow, l.HasWindow w := by
  have hstep := step_eq hnice
  have hstepPos : 0 < l.family.skip * q * (10 : Rat) ^ l.exponent :=
    mul_pos (mul_pos (Nat.cast_pos.mpr hskip) hpos) (zpow_pos (by norm_num) l.exponent)
  have hticks := RationalGoal.ticksFrom_eq l.family hskip hstepPos hcount l.start
  rw [← hstep] at hticks
  exact ⟨_, hticks, rfl, hstep, rfl⟩

end Labelling

structure Weights.AreFinite (w : Weights Exact) : Prop where
  coverage : Scalar.IsFinite w.coverage
  simplicity : Scalar.IsFinite w.simplicity
  density : Scalar.IsFinite w.density
  legibility : Scalar.IsFinite w.legibility

namespace RationalGoal

variable (goal : RationalGoal) {l : Labelling Exact} {w : TickWindow}

/-!
## Labellings over rational data
-/

theorem exists_nice (h : l.IsFor goal.toGoal) :
    exists q : Rat, l.family.nice = value q ∧ 0 < q ∧
      l.step = value (l.family.skip * q * (10 : Rat) ^ l.exponent) := by
  rcases TickOptions.exists_nice_of_fault?_eq_none goal.valid (List.mem_of_getElem? h.nice) with
    ⟨q, hq, hpos⟩
  exact ⟨q, hq, hpos, Labelling.step_eq hq⟩

theorem skip_pos (h : l.IsFor goal.toGoal) : (0 : Rat) < l.family.skip :=
  Nat.cast_pos.mpr h.skip.1

theorem exists_window_of_isFor (h : l.IsFor goal.toGoal) :
    exists w : TickWindow, l.HasWindow w := by
  rcases goal.exists_nice h with ⟨q, hq, hpos, _⟩
  exact Labelling.exists_window h.skip.1 hq hpos h.count.1

theorem score_eq_of_hasWindow (hw : l.HasWindow w) :
    l.score goal.toGoal
      = goal.toGoal.weigh (value (goal.coverage w)) (value (goal.simplicity l.family w))
          (value (goal.density w)) := by
  unfold Labelling.score
  rw [hw.ticks, ← hw.count]
  exact goal.score_eq l.family w

/-!
## The bounds of the search
-/

theorem leastPower_eq (h : l.IsFor goal.toGoal) {q : Rat} (hq : l.family.nice = value q)
    (hpos : 0 < q) :
    (value goal.high - value goal.low) / (Scalar.ofNat l.count + 1.0) / l.family.skipped
      / l.family.nice = value (goal.range / ((l.count : Rat) + 1) / l.family.skip / q) := by
  have hcount : (0 : Rat) < (l.count : Rat) + 1 := by positivity
  have hskip := goal.skip_pos h
  rw [hq, one_eq, StepFamily.skipped, ofNat_eq, ofNat_eq, value_add, value_sub,
    value_div _ hcount.ne', value_div _ hskip.ne', value_div _ hpos.ne']
  rfl

theorem firstExponent_le_iff (h : l.IsFor goal.toGoal) (z : Int) :
    goal.toGoal.firstExponent l.family l.count ≤ z ↔
      (value goal.high - value goal.low) / (Scalar.ofNat l.count + 1.0) / l.family.skipped
        / l.family.nice ≤ Scalar.powTen z := by
  rcases goal.exists_nice h with ⟨q, hq, hpos, _⟩
  have hskip := goal.skip_pos h
  have hrange := goal.range_pos
  change Scalar.decade ((value goal.high - value goal.low) / (Scalar.ofNat l.count + 1.0)
      / l.family.skipped / l.family.nice) ≤ z ↔ _
  rw [goal.leastPower_eq h hq hpos, powTen_eq, value_le_value]
  exact ratDecade_le_iff (by positivity) z

theorem firstExponent_le_iff_range_le (h : l.IsFor goal.toGoal) (hw : l.HasWindow w) :
    goal.toGoal.firstExponent l.family l.count ≤ l.exponent ↔
      goal.range ≤ w.step * (w.count + 1) := by
  rcases goal.exists_nice h with ⟨q, hq, hpos, hstep⟩
  have hskip := goal.skip_pos h
  have hwidth : w.step = l.family.skip * q * (10 : Rat) ^ l.exponent :=
    Exact.value.inj (hw.step.symm.trans hstep)
  have hproduct : w.step * ((w.count : Rat) + 1)
      = (10 : Rat) ^ l.exponent * (((l.count : Rat) + 1) * (l.family.skip * q)) := by
    rw [hwidth, hw.count]
    ring
  rw [goal.firstExponent_le_iff h, goal.leastPower_eq h hq hpos, powTen_eq, value_le_value, div_div,
    div_div, div_le_iff₀ (by positivity), hproduct]

theorem firstStart_eq (family : StepFamily Exact) (count : Nat) {s : Rat} (hs : s ≠ 0) :
    goal.toGoal.firstStart family count (value s)
      = ⌊goal.high / s⌋ * family.skip - ((count : Int) - 1) * family.skip := by
  unfold TickGoal.firstStart
  change Scalar.truncate (Scalar.floor (value goal.high / value s)) * _ - _ = _
  rw [truncate_floor_div _ hs]
  rfl

theorem lastStart_eq (family : StepFamily Exact) {s : Rat} (hs : s ≠ 0) :
    goal.toGoal.lastStart family (value s) = ⌈goal.low / s⌉ * family.skip := by
  unfold TickGoal.lastStart
  change Scalar.truncate (Scalar.ceil (value goal.low / value s)) * _ = _
  rw [truncate_ceil_div _ hs]

theorem start_eq (h : l.IsFor goal.toGoal) (hw : l.HasWindow w) :
    (l.start : Rat) = w.first / w.step * l.family.skip := by
  have hskip := (goal.skip_pos h).ne'
  have hstep := w.step_pos.ne'
  rw [hw.first]
  field_simp

theorem firstExponent_le (h : l.IsFor goal.toGoal) (hw : l.HasWindow w)
    (hspan : goal.range ≤ w.span) :
    goal.toGoal.firstExponent l.family l.count ≤ l.exponent := by
  apply (goal.firstExponent_le_iff_range_le h hw).mpr
  -- One gap less than there are ticks spans the data already, and the bound allows two more.
  exact hspan.trans (mul_le_mul_of_nonneg_left (by linarith) w.step_pos.le)

theorem firstStart_le (h : l.IsFor goal.toGoal) (hw : l.HasWindow w) (hhigh : goal.high ≤ w.last) :
    goal.toGoal.firstStart l.family l.count l.step ≤ l.start := by
  rw [hw.step, goal.firstStart_eq l.family l.count w.step_pos.ne']
  have hfloor : (⌊goal.high / w.step⌋ : Rat) ≤ w.first / w.step + (w.count - 1) :=
    calc
      (⌊goal.high / w.step⌋ : Rat) ≤ goal.high / w.step := Int.floor_le _
      _ ≤ w.last / w.step := div_le_div_of_nonneg_right hhigh w.step_pos.le
      _ = w.first / w.step + (w.count - 1) := by
            have hne := w.step_pos.ne'
            unfold TickWindow.last TickWindow.span
            field_simp
  have hscaled := mul_le_mul_of_nonneg_right hfloor (goal.skip_pos h).le
  rw [hw.count, add_mul, ← goal.start_eq h hw] at hscaled
  have hcast : ((⌊goal.high / w.step⌋ * l.family.skip - ((l.count : Int) - 1) * l.family.skip
      : Int) : Rat) ≤ l.start := by
    push_cast
    linarith
  exact_mod_cast hcast

theorem le_lastStart (h : l.IsFor goal.toGoal) (hw : l.HasWindow w) (hlow : w.first ≤ goal.low) :
    l.start ≤ goal.toGoal.lastStart l.family l.step := by
  rw [hw.step, goal.lastStart_eq l.family w.step_pos.ne']
  have hceil : w.first / w.step ≤ (⌈goal.low / w.step⌉ : Rat) :=
    (div_le_div_of_nonneg_right hlow w.step_pos.le).trans (Int.le_ceil _)
  have hscaled := mul_le_mul_of_nonneg_right hceil (goal.skip_pos h).le
  rw [← goal.start_eq h hw] at hscaled
  exact_mod_cast hscaled

theorem isVisited_of_encloses (h : l.IsFor goal.toGoal) (hencloses : goal.toGoal.Encloses l.ticks) :
    l.IsVisited goal.toGoal goal.toGoal.firstExponent := by
  rcases goal.exists_window_of_isFor h with ⟨w, hw⟩
  rw [hw.ticks] at hencloses
  have hlow : w.first ≤ goal.low := value_le_value.mp hencloses.1
  have hhigh : goal.high ≤ w.last := value_le_value.mp hencloses.2
  have hspan : goal.range ≤ w.span := by
    unfold TickWindow.last at hhigh
    unfold range
    linarith
  exact ⟨goal.firstExponent_le h hw hspan, goal.firstStart_le h hw hhigh,
    goal.le_lastStart h hw hlow⟩

/-!
## The best of all enclosing ticks
-/

theorem admits_ticks_iff (h : l.IsFor goal.toGoal) (hloose : goal.options.loose = true) :
    goal.toGoal.Admits l.ticks ↔ goal.toGoal.Encloses l.ticks := by
  rcases goal.exists_window_of_isFor h with ⟨w, hw⟩
  have htight : goal.options.loose ≠ false := by
    rw [hloose]
    exact Bool.noConfusion
  rw [hw.ticks, goal.admits_iff, or_iff_right htight, ← value_le_value, ← value_le_value]
  exact Iff.rfl

theorem mem_candidatesFrom_firstExponent_iff (hloose : goal.options.loose = true)
    {c : Candidate Exact} :
    c ∈ goal.toGoal.candidatesFrom goal.toGoal.firstExponent ↔
      exists l : Labelling Exact, l.IsFor goal.toGoal ∧ goal.toGoal.Encloses l.ticks ∧
        c = { ticks := l.ticks, score := l.score goal.toGoal } := by
  rw [Labelling.mem_candidatesFrom_iff]
  constructor
  · intro h
    rcases h with ⟨l, hfor, _, hadmits, hc⟩
    exact ⟨l, hfor, (goal.admits_ticks_iff hfor hloose).mp hadmits, hc⟩
  · intro h
    rcases h with ⟨l, hfor, hencloses, hc⟩
    exact ⟨l, hfor, goal.isVisited_of_encloses hfor hencloses,
      (goal.admits_ticks_iff hfor hloose).mpr hencloses, hc⟩

theorem isFinite_score (h : l.IsFor goal.toGoal) (hweights : goal.options.weights.AreFinite) :
    Scalar.IsFinite (l.score goal.toGoal) := by
  rcases goal.exists_window_of_isFor h with ⟨w, hw⟩
  rcases isFinite_iff.mp hweights.coverage with ⟨a, ha⟩
  rcases isFinite_iff.mp hweights.simplicity with ⟨b, hb⟩
  rcases isFinite_iff.mp hweights.density with ⟨c, hc⟩
  rcases isFinite_iff.mp hweights.legibility with ⟨d, hd⟩
  have hoptions : goal.toGoal.options = goal.options := rfl
  rw [goal.score_eq_of_hasWindow hw, TickGoal.weigh, hoptions, ha, hb, hc, hd]
  simp only [value_mul, value_add]
  exact isFinite_iff.mpr ⟨_, rfl⟩

end RationalGoal

theorem Incumbent.start_score : (start : Incumbent Exact).score = value (-2) := by
  unfold start
  rw [zero_eq, two_eq, value_sub, zero_sub]

theorem Candidate.IsFirstBest.start_lt {c : Candidate Exact} {cs : List (Candidate Exact)}
    (h : c.IsFirstBest cs) : value (-2) < c.score := by
  rcases h with ⟨_, _, _, hstart, _⟩
  rw [← Incumbent.start_score]
  exact hstart

theorem Candidate.IsFirstBest.mem {c : Candidate Exact} {cs : List (Candidate Exact)}
    (h : c.IsFirstBest cs) : c ∈ cs := by
  rcases h with ⟨before, after, rfl, _⟩
  exact List.mem_append_right before List.mem_cons_self

theorem Candidate.IsFirstBest.le {c d : Candidate Exact} {cs : List (Candidate Exact)}
    (h : c.IsFirstBest cs) (hd : d ∈ cs) (hdefined : Scalar.IsDefined d.score) :
    d.score ≤ c.score := by
  rcases h with ⟨before, after, rfl, hc, hbefore, hafter⟩
  have hcDefined := (isDefined_of_lt hc).right
  have hnot : ¬ c.score < d.score := by
    rcases List.mem_append.mp hd with hd | hd
    · intro h
      exact hbefore d hd (Exact.le_of_lt h)
    · rcases List.mem_cons.mp hd with rfl | hd
      · exact Exact.not_self_lt d.score
      · exact hafter d hd
  exact (Exact.le_or_lt hdefined hcDefined).resolve_right hnot

/-- Where ticks have to reach to both ends of the data, the search ends with the best of all
labellings whose ticks do, and it finds none only if none of them scores enough.  Its bounds leave
no such labelling out; the first power of ten is the least one at which so many ticks and two more
could span the data. -/
theorem chooseTicks_enclosing_best (goal : RationalGoal)
    (hw : goal.options.weights.NotNegative) (hloose : goal.options.loose = true) :
    (forall l : Labelling Exact, l.IsFor goal.toGoal -> goal.toGoal.Encloses l.ticks ->
        l.IsVisited goal.toGoal goal.toGoal.firstExponent)
      ∧ (forall l : Labelling Exact, l.IsFor goal.toGoal -> forall z : Int,
          goal.toGoal.firstExponent l.family l.count ≤ z ↔
            (value goal.high - value goal.low) / (Scalar.ofNat l.count + 1.0) / l.family.skipped
              / l.family.nice ≤ Scalar.powTen z)
      ∧ (forall p,
          goal.options.chooseTicks (value goal.low) (value goal.high) goal.target = .ok p ->
            exists best : Labelling Exact, best.IsFor goal.toGoal
              ∧ goal.toGoal.Encloses best.ticks ∧ best.ticks = p
              ∧ value (-2) < best.score goal.toGoal
              ∧ forall l : Labelling Exact, l.IsFor goal.toGoal -> goal.toGoal.Encloses l.ticks ->
                  Scalar.IsDefined (l.score goal.toGoal) ->
                    l.score goal.toGoal ≤ best.score goal.toGoal)
      ∧ (goal.options.chooseTicks (value goal.low) (value goal.high) goal.target
            = .error (.ticksExhausted (value goal.low) (value goal.high)) ↔
          forall l : Labelling Exact, l.IsFor goal.toGoal -> goal.toGoal.Encloses l.ticks ->
            Scalar.IsDefined (l.score goal.toGoal) -> l.score goal.toGoal ≤ value (-2))
      ∧ (goal.options.weights.AreFinite -> forall l : Labelling Exact, l.IsFor goal.toGoal ->
          Scalar.IsDefined (l.score goal.toGoal)) := by
  have hsearch : goal.options.chooseTicks (value goal.low) (value goal.high) goal.target = _ :=
    chooseTicksFrom_eq_outcome goal hw TickGoal.firstExponent
  rw [hsearch]
  refine ⟨?_, ?_, ?_, ?_, ?_⟩
  · intro l hfor hencloses
    exact goal.isVisited_of_encloses hfor hencloses
  · intro l hfor z
    exact goal.firstExponent_le_iff hfor z
  · intro p hp
    rcases (outcome_offerAll_eq_ok_iff _ _ _ p).mp hp with ⟨c, hc, rfl⟩
    rcases (goal.mem_candidatesFrom_firstExponent_iff hloose).mp hc.mem with
      ⟨best, hfor, hencloses, rfl⟩
    refine ⟨best, hfor, hencloses, rfl, hc.start_lt, ?_⟩
    intro l hfor' hencloses' hdefined
    have hmem := (goal.mem_candidatesFrom_firstExponent_iff hloose).mpr
      ⟨l, hfor', hencloses', rfl⟩
    exact hc.le hmem hdefined
  · rw [outcome_offerAll_eq_error_iff, Incumbent.start_score]
    constructor
    · intro hnone l hfor hencloses hdefined
      have hmem := (goal.mem_candidatesFrom_firstExponent_iff hloose).mpr ⟨l, hfor, hencloses, rfl⟩
      have hnot : ¬ value (-2) < l.score goal.toGoal := hnone _ hmem
      exact (Exact.le_or_lt hdefined (value_le_value.mpr (le_refl _))).resolve_right hnot
    · intro hall c hc hlt
      rcases (goal.mem_candidatesFrom_firstExponent_iff hloose).mp hc with
        ⟨l, hfor, hencloses, rfl⟩
      exact Exact.not_le_of_lt hlt (hall l hfor hencloses (isDefined_of_lt hlt).right)
  · intro hweights l hfor
    exact isDefined_of_isFinite (goal.isFinite_score hfor hweights)

def twentieths : RationalGoal where
  low := 11 / 20
  high := 209 / 20
  target := 5
  options := { TickOptions.standard with loose := true }
  low_lt_high := by norm_num
  two_le_target := by norm_num
  valid := by decide +kernel

theorem chooseTicks_enclosing_best_twentieths :
    twentieths.options.weights.NotNegative ∧ twentieths.options.loose = true
      ∧ twentieths.options.weights.AreFinite
      ∧ exists best : Labelling Exact, best.IsFor twentieths.toGoal
          ∧ best.ticks = { first := value 0, last := value 12, step := value 3 }
          ∧ forall l : Labelling Exact, l.IsFor twentieths.toGoal ->
              twentieths.toGoal.Encloses l.ticks ->
                l.score twentieths.toGoal ≤ best.score twentieths.toGoal := by
  have hw : twentieths.options.weights.NotNegative :=
    ⟨by decide +kernel, by decide +kernel, by decide +kernel⟩
  have hweights : twentieths.options.weights.AreFinite :=
    ⟨by decide +kernel, by decide +kernel, by decide +kernel, by decide +kernel⟩
  have htoOption : (twentieths.options.chooseTicks (value twentieths.low) (value twentieths.high)
      twentieths.target).toOption = some { first := value 0, last := value 12, step := value 3 } := by
    decide +kernel
  rcases chooseTicks_enclosing_best twentieths hw rfl with ⟨_, _, hok, _, hdefined⟩
  cases hticks : twentieths.options.chooseTicks (value twentieths.low) (value twentieths.high)
      twentieths.target with
  | error e =>
      rw [hticks] at htoOption
      cases htoOption
  | ok p =>
      rw [hticks] at htoOption
      cases htoOption
      rcases hok _ hticks with ⟨best, hfor, _, hbest, _, hall⟩
      refine ⟨hw, rfl, hweights, best, hfor, hbest, ?_⟩
      intro l hfor' hencloses
      exact hall l hfor' hencloses (hdefined hweights l hfor')

end LayeredPlot
