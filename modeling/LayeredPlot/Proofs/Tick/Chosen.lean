import LayeredPlot.Proofs.Tick.Completeness

/-!
# What chosen ticks are like

Chosen ticks are those of a labelling between the bounds of the search.  So, however scalars are
rounded, their step is not lost at either end, and they reach to both ends of the data where that
is asked for.  Over exact numbers they are evenly spaced from the first to the last, and less than
one step of the data lies beyond them at either end.
-/

namespace LayeredPlot

open Exact

/-!
## Chosen ticks are those of a labelling
-/

namespace TickOptions

variable {num : Type} [Scalar num] {options : TickOptions num}
  {origin : TickGoal num -> StepFamily num -> Nat -> Int} {low high : num} {target : Nat}
  {p : Progression num}

theorem fields_of_goal_eq_ok {goal : TickGoal num} (h : options.goal low high target = .ok goal) :
    goal.low = low ∧ goal.high = high ∧ goal.options = options := by
  unfold TickOptions.goal at h
  split at h
  · exact absurd h throw_ne_ok
  · split at h
    · exact absurd h throw_ne_ok
    · split at h
      · cases pure_eq_ok.mp h
        exact ⟨rfl, rfl, rfl⟩
      · exact absurd h throw_ne_ok

theorem exists_labelling_of_chooseTicksFrom_eq_ok
    (h : options.chooseTicksFrom origin low high target = .ok p) :
    exists goal, options.goal low high target = .ok goal ∧
      exists l : Labelling num, l.IsFor goal ∧ l.IsVisited goal (origin goal)
        ∧ goal.Admits l.ticks ∧ l.ticks = p := by
  rcases exists_candidate_of_chooseTicksFrom_eq_ok h with ⟨goal, hgoal, c, hc, rfl⟩
  rcases Labelling.mem_candidatesFrom_iff.mp hc with ⟨l, hfor, hvisited, hadmits, rfl⟩
  exact ⟨goal, hgoal, l, hfor, hvisited, hadmits, rfl⟩

end TickOptions

namespace RationalGoal

variable (goal : RationalGoal) {l : Labelling Exact} {w : TickWindow}

/-!
## The bounds of the search keep ticks at the data
-/

theorem first_lt_low_add_step (hfor : l.IsFor goal.toGoal) (hw : l.HasWindow w)
    (h : l.start ≤ goal.toGoal.lastStart l.family l.step) : w.first < goal.low + w.step := by
  have hne := w.step_pos.ne'
  rw [hw.step, goal.lastStart_eq l.family hne] at h
  have hscaled : (l.start : Rat) ≤ ⌈goal.low / w.step⌉ * l.family.skip := by exact_mod_cast h
  rw [goal.start_eq hfor hw] at hscaled
  have hsteps := le_of_mul_le_mul_right hscaled (goal.skip_pos hfor)
  calc
    w.first = w.first / w.step * w.step := (div_mul_cancel₀ w.first hne).symm
    _ < (goal.low / w.step + 1) * w.step :=
          mul_lt_mul_of_pos_right (lt_of_le_of_lt hsteps (Int.ceil_lt_add_one _)) w.step_pos
    _ = goal.low + w.step := by rw [add_mul, div_mul_cancel₀ goal.low hne, one_mul]

theorem high_sub_step_lt_last (hfor : l.IsFor goal.toGoal) (hw : l.HasWindow w)
    (h : goal.toGoal.firstStart l.family l.count l.step ≤ l.start) :
    goal.high - w.step < w.last := by
  have hne := w.step_pos.ne'
  rw [hw.step, goal.firstStart_eq l.family l.count hne] at h
  have hscaled : (⌊goal.high / w.step⌋ - ((l.count : Rat) - 1)) * l.family.skip ≤ l.start := by
    have hcast : ((⌊goal.high / w.step⌋ * l.family.skip - ((l.count : Int) - 1) * l.family.skip
        : Int) : Rat) ≤ l.start := Int.cast_le.mpr h
    push_cast at hcast
    linarith
  rw [goal.start_eq hfor hw, ← hw.count] at hscaled
  have hsteps := le_of_mul_le_mul_right hscaled (goal.skip_pos hfor)
  calc
    goal.high - w.step = (goal.high / w.step - 1) * w.step := by
          rw [sub_mul, div_mul_cancel₀ goal.high hne, one_mul]
    _ < (w.first / w.step + (w.count - 1)) * w.step := by
          apply mul_lt_mul_of_pos_right _ w.step_pos
          linarith [Int.sub_one_lt_floor (goal.high / w.step)]
    _ = w.last := by
          rw [add_mul, div_mul_cancel₀ w.first hne, mul_comm (_ - 1) w.step]
          rfl

end RationalGoal

/-- However scalars are rounded, a step leads on from either end of chosen ticks, and they reach to
both ends of the data where that is asked for.  Over exact numbers they lack less than one step at
either end of the data: they meet the data, or all data are within one step before or behind
them. -/
theorem chosen_ticks_reach_data :
    (forall {num : Type} [Scalar num] (options : TickOptions num)
        (origin : TickGoal num -> StepFamily num -> Nat -> Int) (low high : num) (target : Nat)
        (p : Progression num),
        options.chooseTicksFrom origin low high target = .ok p ->
          Progression.Advances p.first p.step ∧ Progression.Advances p.last p.step
            ∧ (options.loose = true -> p.first ≤ low ∧ high ≤ p.last))
      ∧ (forall (options : TickOptions Exact)
          (origin : TickGoal Exact -> StepFamily Exact -> Nat -> Int) (low high : Exact)
          (target : Nat) (p : Progression Exact),
          options.chooseTicksFrom origin low high target = .ok p ->
            p.first < low + p.step ∧ high - p.step < p.last
              ∧ (p.first ≤ high ∧ low ≤ p.last
                ∨ p.first - p.step < low ∧ high < p.first
                ∨ p.last < low ∧ high < p.last + p.step)) := by
  constructor
  · intro num _ options origin low high target p h
    rcases TickOptions.exists_labelling_of_chooseTicksFrom_eq_ok h with
      ⟨goal, hgoal, l, _, _, ⟨hfirst, hlast, hencloses⟩, rfl⟩
    rcases TickOptions.fields_of_goal_eq_ok hgoal with ⟨rfl, rfl, rfl⟩
    refine ⟨hfirst, hlast, ?_⟩
    intro hloose
    rw [hloose] at hencloses
    exact hencloses.resolve_left Bool.noConfusion
  · intro options origin low high target p h
    rcases TickOptions.exists_labelling_of_chooseTicksFrom_eq_ok h with
      ⟨found, hgoal, l, hfor, hvisited, _, rfl⟩
    rcases RationalGoal.exists_toGoal_eq hgoal with ⟨goal, rfl, _, rfl, rfl, _⟩
    rcases goal.exists_window_of_isFor hfor with ⟨w, hw⟩
    have hlow := goal.first_lt_low_add_step hfor hw hvisited.le_lastStart
    have hhigh := goal.high_sub_step_lt_last hfor hw hvisited.firstStart_le
    rw [hw.ticks]
    simp only [TickWindow.ticks, value_add, value_sub, value_lt_value, value_le_value]
    refine ⟨hlow, hhigh, ?_⟩
    rcases lt_or_ge goal.high w.first with hbefore | hfirst
    · exact Or.inr (Or.inl ⟨sub_lt_iff_lt_add.mpr hlow, hbefore⟩)
    · rcases lt_or_ge w.last goal.low with hbehind | hlast
      · exact Or.inr (Or.inr ⟨hbehind, sub_lt_iff_lt_add.mp hhigh⟩)
      · exact Or.inl ⟨hfirst, hlast⟩

theorem chooseTicks_twentieths :
    twentieths.options.chooseTicks (value (11 / 20)) (value (209 / 20)) 5
      = .ok { first := value 0, last := value 12, step := value 3 } := by
  decide +kernel

theorem chooseTicks_fifths :
    (TickOptions.standard : TickOptions Exact).chooseTicks (value (4 / 5)) (value (21 / 5)) 5
      = .ok { first := value 1, last := value 4, step := value 1 } := by
  decide +kernel

theorem chosen_ticks_reach_twentieths_and_fifths :
    (exists p, twentieths.options.loose = true
        ∧ twentieths.options.chooseTicks (value (11 / 20)) (value (209 / 20)) 5 = .ok p
        ∧ p.last < p.last + p.step ∧ p.first ≤ value (11 / 20) ∧ value (209 / 20) ≤ p.last)
      ∧ (exists p, TickOptions.standard.chooseTicks (value (4 / 5)) (value (21 / 5)) 5 = .ok p
        ∧ value (4 / 5) < p.first ∧ p.first < value (4 / 5) + p.step
        ∧ p.last < value (21 / 5) ∧ value (21 / 5) - p.step < p.last) := by
  constructor
  · rcases chosen_ticks_reach_data.1 _ _ _ _ _ _ chooseTicks_twentieths with
      ⟨_, hadvances, hreaches⟩
    exact ⟨_, rfl, chooseTicks_twentieths, hadvances, hreaches rfl⟩
  · rcases chosen_ticks_reach_data.2 _ _ _ _ _ _ chooseTicks_fifths with ⟨hfirst, hlast, _⟩
    exact ⟨_, chooseTicks_fifths, value_lt_value.mpr (by norm_num), hfirst,
      value_lt_value.mpr (by norm_num), hlast⟩

/-- Chosen ticks go by a multiple of a nice step and start at a multiple of the same nice step.  A
walk along them meets each of them once and ends at the last, even if it may go on. -/
theorem chosen_ticks_are_spaced {options : TickOptions Exact}
    {origin : TickGoal Exact -> StepFamily Exact -> Nat -> Int} {low high : Exact} {target : Nat}
    {p : Progression Exact} (h : options.chooseTicksFrom origin low high target = .ok p) :
    exists (j k : Nat) (q s : Rat) (z start : Int),
      (1 ≤ j ∧ j ≤ 99) ∧ value q ∈ options.niceSteps ∧ (2 ≤ k ∧ k ≤ 99) ∧ z < 100
        ∧ s = j * q * 10 ^ z ∧ 0 < s
        ∧ p = { first := value (start * s / j), last := value (start * s / j + (k - 1) * s),
                step := value s }
        ∧ p.ticks = (List.range k).map (fun i : Nat => value (start * s / j + i * s))
        ∧ p.ticks.getLast? = some p.last
        ∧ (forall bound, k ≤ bound -> Progression.walk p.last p.step bound p.first = p.ticks) := by
  rcases TickOptions.exists_labelling_of_chooseTicksFrom_eq_ok h with
    ⟨found, hgoal, l, hfor, _, _, rfl⟩
  rcases RationalGoal.exists_toGoal_eq hgoal with ⟨goal, rfl, rfl, rfl, rfl, _⟩
  rcases goal.exists_window_of_isFor hfor with ⟨w, hw⟩
  rcases goal.exists_nice hfor with ⟨q, hq, _, hstep⟩
  have hnice : value q ∈ goal.options.niceSteps := hq ▸ List.mem_of_getElem? hfor.nice
  have hwidth : w.step = l.family.skip * q * 10 ^ l.exponent :=
    Exact.value.inj (hw.step.symm.trans hstep)
  have hfirst : w.first = l.start * w.step / l.family.skip := by
    rw [hw.first, mul_div_assoc]
  have hspan : (l.count - 1) * w.step = w.span := by
    rw [← hw.count, mul_comm]
    rfl
  refine ⟨l.family.skip, l.count, q, w.step, l.exponent, l.start, hfor.skip, hnice, hfor.count,
    hfor.exponent, hwidth, w.step_pos, ?_⟩
  rw [hw.ticks, ← hfirst, hspan, ← hw.count]
  refine ⟨rfl, w.ticks_ticks, w.getLast?_ticks, ?_⟩
  intro bound hbound
  rw [w.ticks_ticks]
  exact w.walk_first hbound

theorem chosen_ticks_are_spaced_fifths :
    TickOptions.standard.chooseTicks (value (4 / 5)) (value (21 / 5)) 5
        = .ok { first := value 1, last := value 4, step := value 1 }
      ∧ exists (j k : Nat) (q s : Rat) (z start : Int),
        (1 ≤ j ∧ j ≤ 99) ∧ (2 ≤ k ∧ k ≤ 99) ∧ z < 100 ∧ (1 : Rat) = j * q * 10 ^ z
          ∧ (Progression.mk (value 1) (value 4) (value 1)).ticks
            = (List.range k).map (fun i : Nat => value (start * s / j + i * s)) := by
  rcases chosen_ticks_are_spaced chooseTicks_fifths with
    ⟨j, k, q, s, z, start, hj, _, hk, hz, hs, _, hp, hticks, _⟩
  have hone : s = 1 := (Exact.value.inj (congrArg Progression.step hp)).symm
  exact ⟨chooseTicks_fifths, j, k, q, s, z, start, hj, hk, hz, hone ▸ hs, hticks⟩

end LayeredPlot
