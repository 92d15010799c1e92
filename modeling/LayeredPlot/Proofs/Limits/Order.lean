import LayeredPlot.Limits
import LayeredPlot.Proofs.Number.Laws

/-!
# Limits and the order of scalars

Limits cover the numbers between their ends.  Limits around numbers go from the least to the
greatest of them before they are widened, and a union covers what either of two limits covers.  The
order in which numbers or limits are taken together shows only in the signs of zeros.
-/

namespace LayeredPlot

open Scalar

variable {num : Type} [Scalar num]

namespace Limits

def Covers (l : Limits num) (x : num) : Prop :=
  l.low ≤ x ∧ x ≤ l.high

def Alike (l m : Limits num) : Prop :=
  Scalar.Alike l.low m.low ∧ Scalar.Alike l.high m.high

protected theorem Alike.refl (l : Limits num) : l.Alike l :=
  ⟨Scalar.Alike.refl _, Scalar.Alike.refl _⟩

protected theorem Alike.symm {l m : Limits num} (h : l.Alike m) : m.Alike l :=
  ⟨h.1.symm, h.2.symm⟩

variable {l m : Limits num} {xs ys : List num} {x : num} {ls ms : List (Limits num)}

/-!
## The least and the greatest of some numbers
-/

structure Spans (l : Limits num) (xs : List num) : Prop where
  low_mem : l.low ∈ xs
  high_mem : l.high ∈ xs
  covers : forall x, x ∈ xs -> l.Covers x

theorem Spans.alike (hl : l.Spans xs) (hm : m.Spans ys) (h : forall x, x ∈ xs ↔ x ∈ ys) :
    l.Alike m := by
  constructor
  · exact Or.inl ⟨(hl.covers m.low ((h _).mpr hm.low_mem)).1,
      (hm.covers l.low ((h _).mp hl.low_mem)).1⟩
  · exact Or.inl ⟨(hm.covers l.high ((h _).mp hl.high_mem)).2,
      (hl.covers m.high ((h _).mpr hm.high_mem)).2⟩

theorem Spans.isDefined (h : l.Spans xs) : IsDefined l.low ∧ IsDefined l.high :=
  ⟨(h.covers l.low h.low_mem).1, (h.covers l.high h.high_mem).2⟩

theorem spans_singleton (hx : IsDefined x) : Spans { low := x, high := x } [x] where
  low_mem := List.mem_singleton_self x
  high_mem := List.mem_singleton_self x
  covers := by
    intro y hy
    rw [List.mem_singleton.mp hy]
    exact ⟨hx, hx⟩

theorem union_union (l m : Limits num) : (l.union m).union m = l.union m := by
  unfold union
  rw [lesser_lesser, greater_greater]

/-- Limits go from the least of the defined lower ends to the greatest of the defined upper ends of
several limits; without any they are the limits around nothing. -/
structure Unites (l : Limits num) (ls : List (Limits num)) : Prop where
  low_mem : l.low ∈ infinite :: ls.map Limits.low
  high_mem : l.high ∈ negInfinite :: ls.map Limits.high
  low_le : forall x, x ∈ infinite :: ls.map Limits.low -> IsDefined x -> l.low ≤ x
  le_high : forall x, x ∈ negInfinite :: ls.map Limits.high -> IsDefined x -> x ≤ l.high

theorem unites_nothing : (nothing : Limits num).Unites [] where
  low_mem := List.mem_singleton_self _
  high_mem := List.mem_singleton_self _
  low_le := by
    intro x hx hdefined
    rw [List.mem_singleton.mp hx] at hdefined ⊢
    exact hdefined
  le_high := by
    intro x hx hdefined
    rw [List.mem_singleton.mp hx] at hdefined ⊢
    exact hdefined

variable [LawfulOrder num]

/-!
## Unions
-/

theorem covers_union_iff :
    (l.union m).Covers x ↔ (l.low ≤ x ∨ m.low ≤ x) ∧ (x ≤ l.high ∨ x ≤ m.high) :=
  and_congr lesser_le_iff le_greater_iff

theorem low_lt_high_union_iff :
    (l.union m).low < (l.union m).high ↔
      l.low < l.high ∨ (m.low < l.high ∨ l.low < m.high) ∨ m.low < m.high := by
  change lesser l.low m.low < greater l.high m.high ↔ _
  simp only [lesser_lt_iff, lt_greater_iff, or_assoc]

theorem Covers.union_left (h : l.Covers x) (m : Limits num) : (l.union m).Covers x :=
  covers_union_iff.mpr ⟨Or.inl h.1, Or.inl h.2⟩

theorem Covers.union_right (l : Limits num) (h : m.Covers x) : (l.union m).Covers x :=
  covers_union_iff.mpr ⟨Or.inr h.1, Or.inr h.2⟩

theorem covers_foldl_union_of_covers {item : Type} {f : item -> Limits num} (xs : List item)
    (h : l.Covers x) : (xs.foldl (fun l i => l.union (f i)) l).Covers x := by
  induction xs generalizing l with
  | nil => exact h
  | cons i rest ih => exact ih (h.union_left (f i))

theorem covers_foldl_union_of_mem {item : Type} {f : item -> Limits num} {xs : List item}
    {i : item} (hi : i ∈ xs) (h : (f i).Covers x) (l : Limits num) :
    (xs.foldl (fun l i => l.union (f i)) l).Covers x := by
  induction xs generalizing l with
  | nil => cases hi
  | cons j rest ih =>
      rcases List.mem_cons.mp hi with rfl | hi
      · exact covers_foldl_union_of_covers rest (h.union_right l)
      · exact ih hi (l.union (f j))

/-!
## Limits around numbers
-/

theorem Spans.union (hl : l.Spans xs) (hm : m.Spans ys) : (l.union m).Spans (xs ++ ys) where
  low_mem := lesser_of_both (P := (· ∈ xs ++ ys)) (List.mem_append_left ys hl.low_mem)
    (List.mem_append_right xs hm.low_mem)
  high_mem := greater_of_both (P := (· ∈ xs ++ ys)) (List.mem_append_left ys hl.high_mem)
    (List.mem_append_right xs hm.high_mem)
  covers := by
    intro x hx
    rcases List.mem_append.mp hx with hx | hx
    · exact (hl.covers x hx).union_left m
    · exact (hm.covers x hx).union_right l

theorem Spans.extend (h : l.Spans xs) (hx : IsDefined x) : (l.extend x).Spans (xs ++ [x]) where
  low_mem := by
    change (if x < l.low then x else l.low) ∈ xs ++ [x]
    split
    · exact List.mem_append_right xs (List.mem_singleton_self x)
    · exact List.mem_append_left [x] h.low_mem
  high_mem := by
    change (if l.high < x then x else l.high) ∈ xs ++ [x]
    split
    · exact List.mem_append_right xs (List.mem_singleton_self x)
    · exact List.mem_append_left [x] h.high_mem
  covers := by
    have hlow : (l.extend x).low ≤ l.low ∧ (l.extend x).low ≤ x := by
      change (if x < l.low then x else l.low) ≤ l.low ∧ (if x < l.low then x else l.low) ≤ x
      split
      next hlt => exact ⟨le_of_lt hlt, hx⟩
      next hlt => exact ⟨h.isDefined.1, le_of_not_lt hx h.isDefined.1 hlt⟩
    have hhigh : l.high ≤ (l.extend x).high ∧ x ≤ (l.extend x).high := by
      change l.high ≤ (if l.high < x then x else l.high) ∧ x ≤ (if l.high < x then x else l.high)
      split
      next hlt => exact ⟨le_of_lt hlt, hx⟩
      next hlt => exact ⟨h.isDefined.2, le_of_not_lt h.isDefined.2 hx hlt⟩
    intro y hy
    rcases List.mem_append.mp hy with hy | hy
    · rcases h.covers y hy with ⟨hlowy, hyhigh⟩
      exact ⟨LawfulOrder.le_trans hlow.1 hlowy, LawfulOrder.le_trans hyhigh hhigh.1⟩
    · rw [List.mem_singleton.mp hy]
      exact ⟨hlow.2, hhigh.2⟩

theorem Spans.foldl_extend (h : l.Spans xs) (hdefined : forall y, y ∈ ys -> IsDefined y) :
    (ys.foldl Limits.extend l).Spans (xs ++ ys) := by
  induction ys generalizing l xs with
  | nil =>
      rw [List.append_nil]
      exact h
  | cons y rest ih =>
      have hrest := ih (h.extend (hdefined y List.mem_cons_self))
        (fun z hz => hdefined z (List.mem_cons_of_mem y hz))
      rw [List.append_assoc, List.singleton_append] at hrest
      exact hrest

theorem exists_around_eq (hdefined : forall x, x ∈ xs -> IsDefined x) (hne : xs ≠ [])
    (margin : num) : exists l : Limits num, l.Spans xs ∧ around margin xs = l.widen margin := by
  match xs, hne with
  | x :: rest, _ =>
      have hspans := (spans_singleton (hdefined x List.mem_cons_self)).foldl_extend
        (fun y hy => hdefined y (List.mem_cons_of_mem x hy))
      exact ⟨_, hspans, rfl⟩

/-!
## The union of several limits
-/

theorem Unites.isDefined (h : l.Unites ls) : IsDefined l.low ∧ IsDefined l.high := by
  have hlt : (negInfinite : num) < infinite := LawfulOrder.negInfinite_lt_infinite
  have hends := LawfulOrder.isDefined_of_le (le_of_lt hlt)
  exact ⟨(LawfulOrder.isDefined_of_le (h.low_le _ List.mem_cons_self hends.2)).1,
    (LawfulOrder.isDefined_of_le (h.le_high _ List.mem_cons_self hends.1)).2⟩

theorem Unites.union (h : l.Unites ls) (m : Limits num) : (l.union m).Unites (ls ++ [m]) where
  low_mem := by
    change lesser l.low m.low ∈ _
    rw [List.map_append, ← List.cons_append, List.mem_append]
    rcases lesser_eq_or l.low m.low with heq | heq
    · rw [heq]
      exact Or.inl h.low_mem
    · rw [heq]
      exact Or.inr (List.mem_singleton_self _)
  high_mem := by
    change greater l.high m.high ∈ _
    rw [List.map_append, ← List.cons_append, List.mem_append]
    rcases greater_eq_or l.high m.high with heq | heq
    · rw [heq]
      exact Or.inl h.high_mem
    · rw [heq]
      exact Or.inr (List.mem_singleton_self _)
  low_le := by
    intro x hx hdefined
    rw [List.map_append, ← List.cons_append, List.mem_append] at hx
    rcases hx with hx | hx
    · exact LawfulOrder.le_trans (lesser_le_left h.isDefined.1 m.low) (h.low_le x hx hdefined)
    · rw [List.mem_singleton.mp hx] at hdefined ⊢
      exact lesser_le_right l.low hdefined
  le_high := by
    intro x hx hdefined
    rw [List.map_append, ← List.cons_append, List.mem_append] at hx
    rcases hx with hx | hx
    · exact LawfulOrder.le_trans (h.le_high x hx hdefined) (left_le_greater h.isDefined.2 m.high)
    · rw [List.mem_singleton.mp hx] at hdefined ⊢
      exact right_le_greater l.high hdefined

theorem Unites.foldl_union (h : l.Unites ls) (ms : List (Limits num)) :
    (ms.foldl Limits.union l).Unites (ls ++ ms) := by
  induction ms generalizing l ls with
  | nil =>
      rw [List.append_nil]
      exact h
  | cons m rest ih =>
      have hrest := ih (h.union m)
      rw [List.append_assoc, List.singleton_append] at hrest
      exact hrest

theorem Unites.alike (hl : l.Unites ls) (hm : m.Unites ms) (h : ls.Perm ms) : l.Alike m := by
  have hlows : forall x, x ∈ infinite :: ls.map Limits.low ↔ x ∈ infinite :: ms.map Limits.low :=
    fun x => ((h.map Limits.low).cons infinite).mem_iff
  have hhighs : forall x,
      x ∈ negInfinite :: ls.map Limits.high ↔ x ∈ negInfinite :: ms.map Limits.high :=
    fun x => ((h.map Limits.high).cons negInfinite).mem_iff
  constructor
  · exact Or.inl ⟨hl.low_le _ ((hlows _).mpr hm.low_mem) hm.isDefined.1,
      hm.low_le _ ((hlows _).mp hl.low_mem) hl.isDefined.1⟩
  · exact Or.inl ⟨hm.le_high _ ((hhighs _).mp hl.high_mem) hl.isDefined.2,
      hl.le_high _ ((hhighs _).mpr hm.high_mem) hm.isDefined.2⟩

theorem foldl_union_alike (h : ls.Perm ms) :
    (ls.foldl Limits.union nothing).Alike (ms.foldl Limits.union nothing) :=
  (unites_nothing.foldl_union ls).alike (unites_nothing.foldl_union ms) h

end Limits

/-!
## Alike limits
-/

namespace Limits.Alike

variable [LawfulArithmetic num] {l m : Limits num} {xs ys : List num}

theorem widen (h : l.Alike m) (margin : num) : (l.widen margin).Alike (m.widen margin) := by
  have hpart : Scalar.Alike (l.span * margin) (m.span * margin) :=
    (h.2.sub h.1).mul (Scalar.Alike.refl margin)
  exact ⟨h.1.sub hpart, h.2.add hpart⟩

theorem around (hdefined : forall x, x ∈ xs -> IsDefined x) (hperm : xs.Perm ys) (margin : num) :
    (Limits.around margin xs).Alike (Limits.around margin ys) := by
  by_cases hnil : xs = []
  · subst hnil
    rw [hperm.nil_eq]
    exact Alike.refl _
  · have hnil' : ys ≠ [] := fun h => hnil (h ▸ hperm).eq_nil
    rcases exists_around_eq hdefined hnil margin with ⟨l, hl, heq⟩
    rcases exists_around_eq (fun y hy => hdefined y (hperm.mem_iff.mpr hy)) hnil' margin with
      ⟨m, hm, heq'⟩
    rw [heq, heq']
    exact (hl.alike hm fun x => hperm.mem_iff).widen margin

end Limits.Alike
end LayeredPlot
