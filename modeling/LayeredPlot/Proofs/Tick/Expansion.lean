import LayeredPlot.Proofs.Number.Position
import LayeredPlot.Proofs.Tick.Walk

/-!
# Walks end

The ticks of a progression are found by adding its step again and again, until a sum is beyond the
last tick or does not move on.  Nothing is known of how sums are rounded: a sum may stay where it is,
become infinite or be undefined.  The walk ends all the same, for where it goes on it goes on to a
greater double, and there are only so many of them up to the last tick.
-/

namespace LayeredPlot
namespace Progression

open Scalar

/-!
## Walks without a bound
-/

section Walks

variable {num : Type} [Scalar num] {x last step : num} {xs ys : List num}

inductive Walks (last step : num) : num -> List num -> Prop
  | beyond {x : num} (hlast : ¬ x ≤ last) : Walks last step x []
  | stalled {x : num} (hlast : x ≤ last) (hnext : x + step ≤ x) : Walks last step x [x]
  | onward {x : num} {xs : List num} (hlast : x ≤ last) (hnext : ¬ x + step ≤ x)
      (hrest : Walks last step (x + step) xs) : Walks last step x (x :: xs)

theorem Walks.unique (h : Walks last step x xs) (h' : Walks last step x ys) : xs = ys := by
  induction h generalizing ys with
  | beyond hlast =>
      cases h' with
      | beyond => rfl
      | stalled hlast' => exact absurd hlast' hlast
      | onward hlast' => exact absurd hlast' hlast
  | stalled hlast hnext =>
      cases h' with
      | beyond hlast' => exact absurd hlast hlast'
      | stalled => rfl
      | onward _ hnext' => exact absurd hnext hnext'
  | onward hlast hnext _ ih =>
      cases h' with
      | beyond hlast' => exact absurd hlast hlast'
      | stalled _ hnext' => exact absurd hnext' hnext
      | onward _ _ hrest' => rw [ih hrest']

theorem Walks.head?_eq (h : Walks last step x xs) (hlast : x ≤ last) : xs.head? = some x := by
  cases h with
  | beyond hnot => exact absurd hlast hnot
  | stalled => rfl
  | onward => rfl

theorem Walks.eq_nil (h : Walks last step x xs) (hlast : ¬ x ≤ last) : xs = [] := by
  cases h with
  | beyond => rfl
  | stalled hle => exact absurd hle hlast
  | onward hle => exact absurd hle hlast

/-- What a progression expands to: the ticks of a walk that comes to an end by itself, or none at
all unless the step is positive. -/
inductive Expands (p : Progression num) : List num -> Prop
  | still (hstep : ¬ 0.0 < p.step) : Expands p []
  | walk {xs : List num} (hstep : 0.0 < p.step) (hwalk : Walks p.last p.step p.first xs) :
      Expands p xs

theorem Expands.unique {p : Progression num} (h : p.Expands xs) (h' : p.Expands ys) : xs = ys := by
  cases h with
  | still hstep =>
      cases h' with
      | still => rfl
      | walk hstep' => exact absurd hstep' hstep
  | walk hstep hwalk =>
      cases h' with
      | still hstep' => exact absurd hstep hstep'
      | walk _ hwalk' => exact hwalk.unique hwalk'

theorem Expands.head?_eq {p : Progression num} (h : p.Expands xs) (hstep : 0.0 < p.step)
    (hfirst : p.first ≤ p.last) : xs.head? = some p.first := by
  cases h with
  | still hnot => exact absurd hstep hnot
  | walk _ hwalk => exact hwalk.head?_eq hfirst

theorem Expands.eq_nil_iff {p : Progression num} (h : p.Expands xs) :
    xs = [] ↔ ¬ (0.0 < p.step ∧ p.first ≤ p.last) := by
  constructor
  · intro hnil hnone
    have hhead := h.head?_eq hnone.1 hnone.2
    rw [hnil] at hhead
    cases hhead
  · intro hnone
    cases h with
    | still => rfl
    | walk hstep hwalk => exact hwalk.eq_nil fun hfirst => hnone ⟨hstep, hfirst⟩

theorem length_walk_le (last step : num) (bound : Nat) (x : num) :
    (walk last step bound x).length ≤ bound := by
  induction bound generalizing x with
  | zero => exact Nat.le_refl 0
  | succ bound ih =>
      unfold walk
      split
      · refine Nat.succ_le_succ ?_
        split
        · exact Nat.zero_le bound
        · exact ih (x + step)
      · exact Nat.zero_le _

variable [LawfulOrder num]

/-- A walk ends by itself within a bound that no walk upwards exceeds, however sums are rounded:
wherever it goes on, its next tick has a higher position. -/
theorem walks_walk {position : num -> Nat}
    (hposition : forall {x y : num}, IsDefined x -> IsDefined y ->
      (x ≤ y ↔ position x ≤ position y))
    {bound : Nat} (hbound : x ≤ last -> position last < bound + position x) :
    Walks last step x (walk last step bound x) := by
  induction bound generalizing x with
  | zero =>
      refine Walks.beyond fun hlast => ?_
      rcases LawfulOrder.isDefined_of_le hlast with ⟨hx, hlastDefined⟩
      have hle := (hposition hx hlastDefined).mp hlast
      have hlt := hbound hlast
      omega
  | succ bound ih =>
      unfold walk
      split
      next hlast =>
          dsimp only
          split
          next hnext => exact Walks.stalled hlast hnext
          next hnext =>
              refine Walks.onward hlast hnext (ih fun hrest => ?_)
              have hx := (LawfulOrder.isDefined_of_le hlast).1
              have hsum := (LawfulOrder.isDefined_of_le hrest).1
              have hhigher : ¬ position (x + step) ≤ position x :=
                fun h => hnext ((hposition hsum hx).mpr h)
              have hlt := hbound hlast
              omega
      next hlast => exact Walks.beyond hlast

end Walks

/-!
## Ticks of doubles
-/

variable {p : Progression Float}

theorem expands_ticks (p : Progression Float) : p.Expands p.ticks := by
  unfold ticks
  split
  next hstep =>
      refine Expands.walk hstep (walks_walk Double.le_iff_position_le fun hle => ?_)
      rcases LawfulOrder.isDefined_of_le hle with ⟨hfirst, hlast⟩
      have hposition := (Double.le_iff_position_le hfirst hlast).mp hle
      change Double.position p.last
        < Double.position p.last + 1 - Double.position p.first + Double.position p.first
      omega
  next hstep => exact Expands.still hstep

/-- A progression of doubles, whatever they are, expands to its ticks and to nothing else.  It has
ticks exactly if its step is positive and its first tick is up to its last one.  They begin with the
first tick, ascend and stay up to the last one, no tick is undefined, and there are no more of them
than there are doubles from the first to the last. -/
theorem expands_iff_and_ticks_ascend (p : Progression Float) :
    (forall xs, p.Expands xs ↔ xs = p.ticks)
      ∧ (p.ticks = [] ↔ ¬ (0.0 < p.step ∧ p.first ≤ p.last))
      ∧ (p.ticks ≠ [] -> p.ticks.head? = some p.first)
      ∧ p.ticks.Pairwise (· < ·)
      ∧ (forall x, x ∈ p.ticks -> IsDefined x ∧ x ≤ p.last)
      ∧ p.ticks.length ≤ Double.position p.last + 1 - Double.position p.first := by
  have hexpands := expands_ticks p
  refine ⟨?_, hexpands.eq_nil_iff, ?_, pairwise_ticks p, ?_, ?_⟩
  · intro xs
    constructor
    · intro h
      exact h.unique hexpands
    · intro h
      rw [h]
      exact hexpands
  · intro hsome
    have hfirst := not_not.mp (mt hexpands.eq_nil_iff.mpr hsome)
    exact hexpands.head?_eq hfirst.1 hfirst.2
  · intro x hx
    have hlast := (between_of_mem_ticks hx).2
    exact ⟨(LawfulOrder.isDefined_of_le hlast).1, hlast⟩
  · unfold ticks
    split
    · exact length_walk_le _ _ _ _
    · exact Nat.zero_le _

end Progression
end LayeredPlot
