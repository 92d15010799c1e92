import LayeredPlot.Proofs.Number.Laws
import LayeredPlot.Tick.Progression

/-!
# Walks go upwards

A walk ends where a sum does not move on.  So, however scalars are rounded, the numbers that it
visits ascend from its start and do not pass its end, and so do the ticks of a progression.
-/

namespace LayeredPlot

open Scalar

namespace Progression

variable {num : Type} [Scalar num] [LawfulOrder num] {x y last step : num} {bound : Nat}

theorem between_of_mem_walk (h : y ∈ walk last step bound x) : x ≤ y ∧ y ≤ last := by
  induction bound generalizing x with
  | zero => cases h
  | succ bound ih =>
      unfold walk at h
      split at h
      next hlast =>
          have hx := (LawfulOrder.isDefined_of_le hlast).1
          rcases List.mem_cons.mp h with rfl | h
          · exact ⟨hx, hlast⟩
          · split at h
            · cases h
            next hnext =>
                rcases ih h with ⟨hle, hy⟩
                exact ⟨le_of_lt (lt_of_not_le_of_le hx hnext hle), hy⟩
      next => cases h

theorem pairwise_walk (last step : num) (bound : Nat) (x : num) :
    (walk last step bound x).Pairwise (· < ·) := by
  induction bound generalizing x with
  | zero => exact List.Pairwise.nil
  | succ bound ih =>
      unfold walk
      split
      next hlast =>
          have hx := (LawfulOrder.isDefined_of_le hlast).1
          refine List.Pairwise.cons ?_ ?_
          · intro y hy
            split at hy
            · cases hy
            next hnext => exact lt_of_not_le_of_le hx hnext (between_of_mem_walk hy).1
          · split
            · exact List.Pairwise.nil
            · exact ih (x + step)
      next => exact List.Pairwise.nil

theorem between_of_mem_ticks {p : Progression num} (h : y ∈ p.ticks) :
    p.first ≤ y ∧ y ≤ p.last := by
  unfold ticks at h
  split at h
  · exact between_of_mem_walk h
  · cases h

theorem pairwise_ticks (p : Progression num) : p.ticks.Pairwise (· < ·) := by
  unfold ticks
  split
  · exact pairwise_walk _ _ _ _
  · exact List.Pairwise.nil

end Progression
end LayeredPlot
