import LayeredPlot.Proofs.Outcome
import LayeredPlot.Proofs.Tick.Selection

/-!
# Where chosen ticks come from

Whatever a search leaves out, and however scalars are rounded, the ticks that it
ends with are among its candidates and score enough to be chosen.  Over rational
data they are a window whose ticks can be counted.
-/

namespace LayeredPlot

open Exact

/-!
## What loops keep
-/

section Loops

variable {state item : Type} {P : state -> Prop}

theorem foldUntil_keeps {stop : state -> item -> Bool} {visit : state -> item -> state}
    {xs : List item} (hvisit : forall s x, x ∈ xs -> P s -> P (visit s x)) {s : state} (hs : P s) :
    P (foldUntil stop visit s xs) := by
  induction xs generalizing s with
  | nil => exact hs
  | cons x rest ih =>
      rw [foldUntil]
      split
      · exact hs
      · apply ih
        · intro s' y hy
          exact hvisit s' y (List.mem_cons_of_mem x hy)
        · exact hvisit s x List.mem_cons_self hs

end Loops

variable {num : Type} [Scalar num]

namespace Incumbent

def ComesFrom (inc : Incumbent num) (P : Candidate num -> Prop) : Prop :=
  forall p, inc.best = some p ->
    exists c : Candidate num, P c ∧ c.ticks = p ∧ c.score = inc.score

theorem start_comesFrom (P : Candidate num -> Prop) :
    (start : Incumbent num).ComesFrom P := by
  intro p hp
  cases hp

theorem ComesFrom.offerAll {P : Candidate num -> Prop} {inc : Incumbent num}
    (hinc : inc.ComesFrom P) {cs : List (Candidate num)} (hcs : forall c, c ∈ cs -> P c) :
    (inc.offerAll cs).ComesFrom P := by
  induction cs generalizing inc with
  | nil => exact hinc
  | cons c rest ih =>
      have hoffer : (inc.offer c.ticks c.score).ComesFrom P := by
        unfold offer
        split
        · intro p hp
          exact ⟨c, hcs c List.mem_cons_self, Option.some.inj hp, rfl⟩
        · exact hinc
      exact ih hoffer fun d hd => hcs d (List.mem_cons_of_mem c hd)

end Incumbent

namespace TickGoal

variable {goal : TickGoal num} {origin : StepFamily num -> Nat -> Int}

theorem mem_candidatesFrom {c : Candidate num} :
    c ∈ goal.candidatesFrom origin ↔
      exists family, family ∈ goal.families ∧ exists count, count ∈ counts ∧
        c ∈ goal.candidatesOf origin family count := by
  unfold candidatesFrom
  simp only [List.mem_flatMap]

theorem searchFrom_comesFrom {Q : Candidate num -> Prop}
    (h : forall c, c ∈ goal.candidatesFrom origin -> Q c) :
    (goal.searchFrom origin).ComesFrom Q := by
  -- Leaving a loop early changes nothing, so each level keeps what the level below it keeps.
  unfold searchFrom
  apply foldUntil_keeps (P := fun inc : Incumbent num => inc.ComesFrom Q) _
    (Incumbent.start_comesFrom Q)
  intro inc family hfamily hinc
  unfold visitFamily
  apply foldUntil_keeps (P := fun inc : Incumbent num => inc.ComesFrom Q) _ hinc
  intro inc count hcount hinc
  unfold visitCount
  rw [foldUpUntil_eq_foldUntil]
  apply foldUntil_keeps (P := fun inc : Incumbent num => inc.ComesFrom Q) _ hinc
  intro inc exponent hexponent hinc
  rw [visitExponent_eq_offerAll]
  apply hinc.offerAll
  intro c hc
  apply h
  refine mem_candidatesFrom.mpr ⟨family, hfamily, count, hcount, ?_⟩
  exact List.mem_flatMap.mpr ⟨exponent, hexponent, hc⟩

end TickGoal

namespace TickOptions

variable {options : TickOptions num} {origin : TickGoal num -> StepFamily num -> Nat -> Int}
  {low high : num} {target : Nat} {p : Progression num}

theorem exists_candidate_of_chooseTicksFrom_eq_ok
    (h : options.chooseTicksFrom origin low high target = .ok p) :
    exists goal, options.goal low high target = .ok goal ∧
      exists c, c ∈ goal.candidatesFrom (origin goal) ∧ c.ticks = p := by
  unfold chooseTicksFrom at h
  rcases bind_eq_ok.mp h with ⟨goal, hgoal, h⟩
  refine ⟨goal, hgoal, ?_⟩
  unfold outcome at h
  split at h
  next p' hbest =>
      cases pure_eq_ok.mp h
      rcases TickGoal.searchFrom_comesFrom (fun c hc => hc) p hbest with ⟨c, hc, hp, _⟩
      exact ⟨c, hc, hp⟩
  next => exact absurd h throw_ne_ok

end TickOptions

/-!
## Ticks of windows
-/

namespace TickWindow

variable (w : TickWindow)

theorem one_le_count : 1 ≤ w.count :=
  le_trans one_le_two w.two_le_count

def tick (i : Nat) : Rat :=
  w.first + i * w.step

theorem tick_zero : w.tick 0 = w.first := by
  unfold tick
  simp

theorem tick_last : w.tick (w.count - 1) = w.last := by
  have hcount := w.one_le_count
  unfold tick last span
  push_cast [hcount]
  ring

theorem tick_mono {i j : Nat} (h : i ≤ j) : w.tick i ≤ w.tick j := by
  have hcast : (i : Rat) ≤ j := Nat.cast_le.mpr h
  unfold tick
  exact add_le_add_right (mul_le_mul_of_nonneg_right hcast w.step_pos.le) w.first

theorem last_lt_tick_count : w.last < w.tick w.count := by
  have hpos := w.step_pos
  unfold last span tick
  linarith

/-- From the tick with number `i` on, a walk visits as many ticks as there are left, also when it
may visit more. -/
theorem walk_eq {n i : Nat} (h : i + n = w.count) (spare : Nat) :
    Progression.walk (value w.last) (value w.step) (n + spare) (value (w.tick i))
      = (List.range' i n).map fun j => value (w.tick j) := by
  induction n generalizing i with
  | zero =>
      have hbeyond : ¬ value (w.tick i) ≤ value w.last := by
        rw [← Nat.add_zero i, h, value_le_value]
        exact not_le.mpr w.last_lt_tick_count
      cases spare with
      | zero => rfl
      | succ spare =>
          rw [Nat.zero_add, Progression.walk, if_neg hbeyond]
          rfl
  | succ n ih =>
      have hlast : w.tick i ≤ w.last := by
        rw [← w.tick_last]
        exact w.tick_mono (by omega)
      have hnext : value (w.tick i) + value w.step = value (w.tick (i + 1)) := by
        rw [value_add]
        unfold tick
        push_cast
        congr 1
        ring
      have hadvances : ¬ w.tick (i + 1) ≤ w.tick i := by
        unfold tick
        push_cast
        have := w.step_pos
        linarith
      rw [Nat.succ_add]
      simp only [Progression.walk, value_le_value, if_pos hlast, hnext, if_neg hadvances,
        List.range'_succ, List.map_cons]
      rw [ih (by omega)]

theorem walk_first {bound : Nat} (h : w.count ≤ bound) :
    Progression.walk (value w.last) (value w.step) bound (value w.first)
      = (List.range w.count).map fun i => value (w.tick i) := by
  have hwalk := w.walk_eq (Nat.zero_add w.count) (bound - w.count)
  rwa [Nat.add_sub_cancel' h, tick_zero, ← List.range_eq_range'] at hwalk

theorem strides_eq : Scalar.strides (value w.first) (value w.last) (value w.step) = w.count := by
  have hcount := w.one_le_count
  have hgaps : (w.last - w.first) / w.step = ((w.count - 1 : Nat) : Rat) := by
    have hne := w.step_pos.ne'
    unfold last span
    push_cast [hcount]
    field_simp
    ring
  show ⌊(w.last - w.first) / w.step⌋.toNat + 1 = w.count
  rw [hgaps, Int.floor_natCast, Int.toNat_natCast]
  omega

theorem ticks_ticks : w.ticks.ticks = (List.range w.count).map fun i => value (w.tick i) := by
  have hpos : (0.0 : Exact) < value w.step := by
    rw [zero_eq, value_lt_value]
    exact w.step_pos
  show (if (0.0 : Exact) < value w.step then Progression.walk (value w.last) (value w.step)
    (Scalar.strides (value w.first) (value w.last) (value w.step)) (value w.first) else []) = _
  rw [if_pos hpos, strides_eq, w.walk_first (le_refl w.count)]

theorem head?_ticks : w.ticks.ticks.head? = some (value w.first) := by
  have hcount : w.count ≠ 0 := Nat.one_le_iff_ne_zero.mp w.one_le_count
  rw [ticks_ticks, List.head?_map, List.head?_range, if_neg hcount, Option.map_some, tick_zero]

theorem getLast?_ticks : w.ticks.ticks.getLast? = some (value w.last) := by
  have hcount : w.count ≠ 0 := Nat.one_le_iff_ne_zero.mp w.one_le_count
  rw [ticks_ticks, List.getLast?_map, List.getLast?_range, if_neg hcount, Option.map_some,
    tick_last]

theorem exists_of_mem_ticks {x : Exact} (h : x ∈ w.ticks.ticks) :
    exists q, x = value q ∧ w.first ≤ q ∧ q ≤ w.last := by
  rw [ticks_ticks] at h
  rcases List.mem_map.mp h with ⟨i, hi, rfl⟩
  have hlt := List.mem_range.mp hi
  refine ⟨w.tick i, rfl, ?_, ?_⟩
  · rw [← w.tick_zero]
    exact w.tick_mono (Nat.zero_le i)
  · rw [← w.tick_last]
    exact w.tick_mono (by omega)

end TickWindow

theorem exists_window_of_chooseTicksFrom_eq_ok {options : TickOptions Exact}
    {origin : TickGoal Exact -> StepFamily Exact -> Nat -> Int} {low high : Exact} {target : Nat}
    {p : Progression Exact} (h : options.chooseTicksFrom origin low high target = .ok p) :
    exists (a b : Rat) (w : TickWindow), low = value a ∧ high = value b ∧ a < b ∧ p = w.ticks := by
  rcases TickOptions.exists_candidate_of_chooseTicksFrom_eq_ok h with ⟨found, hfound, c, hc, rfl⟩
  rcases RationalGoal.exists_toGoal_eq hfound with ⟨goal, rfl, _, hlow, hhigh, _⟩
  rcases TickGoal.mem_candidatesFrom.mp hc with ⟨family, hfamily, count, hcount, hc⟩
  rcases TickGoal.mem_candidatesOf.mp hc with ⟨exponent, _, _, hc⟩
  rcases goal.exists_window hfamily hcount hc with ⟨w, _, _, hw, _⟩
  exact ⟨goal.low, goal.high, w, hlow, hhigh, goal.low_lt_high, hw⟩

end LayeredPlot
