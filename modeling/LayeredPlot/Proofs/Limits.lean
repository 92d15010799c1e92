import LayeredPlot.Proofs.Limits.Order
import LayeredPlot.Proofs.Number.Exact

/-!
# Limits over exact numbers

Limits cover the numbers between their ends.  Limits around numbers go from the
least to the greatest of them before they are widened, a union covers what either of
two limits covers, and what finite limits cover is placed in the unit interval.
-/

namespace LayeredPlot

open Exact

namespace Exact

theorem infinityOf_ne_value (p q : Rat) : infinityOf p ≠ value q := by
  unfold infinityOf
  split
  · exact Exact.noConfusion
  · split
    · exact Exact.noConfusion
    · exact Exact.noConfusion

theorem exists_value_of_between {x : Exact} {a b : Rat} (hlow : value a ≤ x) (hhigh : x ≤ value b) :
    exists q, x = value q ∧ a ≤ q ∧ q ≤ b := by
  cases x with
  | value q => exact ⟨q, rfl, value_le_value.mp hlow, value_le_value.mp hhigh⟩
  | infinite => exact absurd hhigh Bool.false_ne_true
  | negInfinite => exact absurd hlow Bool.false_ne_true
  | undefined => exact absurd hlow Bool.false_ne_true

theorem exists_value_or_eq_infinite_of_nonneg {x : Exact} (h : (0.0 : Exact) ≤ x) :
    (exists m, 0 ≤ m ∧ x = value m) ∨ x = infinite := by
  rw [zero_eq] at h
  cases x with
  | value m => exact Or.inl ⟨m, value_le_value.mp h, rfl⟩
  | infinite => exact Or.inr rfl
  | negInfinite => exact absurd h Bool.false_ne_true
  | undefined => exact absurd h Bool.false_ne_true

end Exact

def InUnit (x : Exact) : Prop :=
  value 0 ≤ x ∧ x ≤ value 1

theorem inUnit_iff {x : Exact} : InUnit x ↔ exists q, x = value q ∧ 0 ≤ q ∧ q ≤ 1 := by
  constructor
  · intro h
    rcases h with ⟨hlow, hhigh⟩
    exact exists_value_of_between hlow hhigh
  · intro h
    rcases h with ⟨q, rfl, hlow, hhigh⟩
    exact ⟨value_le_value.mpr hlow, value_le_value.mpr hhigh⟩

namespace Limits

variable {l m : Limits Exact} {xs ys : List Exact} {x : Exact}

/-!
## Unions
-/

theorem foldl_union_low_ne_value {item : Type} {f : item -> Limits Exact} {xs : List item}
    (hl : forall q, l.low ≠ value q) (hf : forall i, i ∈ xs -> forall q, (f i).low ≠ value q)
    (q : Rat) : (xs.foldl (fun l i => l.union (f i)) l).low ≠ value q := by
  induction xs generalizing l with
  | nil => exact hl q
  | cons i rest ih =>
      apply ih
      · intro q
        exact Scalar.lesser_of_both (P := (· ≠ value q)) (hl q) (hf i List.mem_cons_self q)
      · intro j hj
        exact hf j (List.mem_cons_of_mem i hj)

theorem Spans.unique (hl : l.Spans xs) (hm : m.Spans xs) : l = m := by
  rcases hl.alike hm fun x => Iff.rfl with ⟨hlow, hhigh⟩
  cases l
  cases m
  cases alike_iff_eq.mp hlow
  cases alike_iff_eq.mp hhigh
  rfl

/-!
## Limits around numbers
-/

theorem exists_around_eq_widen {xs : List Exact} (hxs : forall x, x ∈ xs -> Scalar.IsFinite x)
    (hne : xs ≠ []) (margin : Exact) :
    exists a b, a ≤ b ∧ around margin xs = widen margin { low := value a, high := value b } ∧
      forall q, value q ∈ xs -> a ≤ q ∧ q ≤ b := by
  have hdefined : forall x, x ∈ xs -> Scalar.IsDefined x :=
    fun x hx => isDefined_of_isFinite (hxs x hx)
  rcases exists_around_eq hdefined hne margin with ⟨⟨low, high⟩, hspans, heq⟩
  rcases isFinite_iff.mp (hxs low hspans.low_mem) with ⟨a, rfl⟩
  rcases isFinite_iff.mp (hxs high hspans.high_mem) with ⟨b, rfl⟩
  refine ⟨a, b, value_le_value.mp (hspans.covers _ hspans.low_mem).2, heq, ?_⟩
  intro q hq
  rcases hspans.covers _ hq with ⟨hlow, hhigh⟩
  exact ⟨value_le_value.mp hlow, value_le_value.mp hhigh⟩

theorem widen_value (m a b : Rat) :
    widen (value m) { low := value a, high := value b }
      = { low := value (a - (b - a) * m), high := value (b + (b - a) * m) } := by
  unfold widen span
  simp only [value_sub, value_mul, value_add]

theorem covers_around {m : Rat} (hm : 0 ≤ m) {xs : List Exact}
    (hxs : forall x, x ∈ xs -> Scalar.IsFinite x) (hx : x ∈ xs) :
    (around (value m) xs).Covers x := by
  rcases exists_around_eq_widen hxs (List.ne_nil_of_mem hx) (value m) with ⟨a, b, hab, heq, hcovers⟩
  rcases isFinite_iff.mp (hxs x hx) with ⟨q, rfl⟩
  rcases hcovers q hx with ⟨hlow, hhigh⟩
  have hwidth : 0 ≤ (b - a) * m := mul_nonneg (sub_nonneg.mpr hab) hm
  rw [heq, widen_value]
  constructor
  · exact value_le_value.mpr (by linarith)
  · exact value_le_value.mpr (by linarith)

theorem around_infinite_low_ne_value {xs : List Exact}
    (hxs : forall x, x ∈ xs -> Scalar.IsFinite x) (q : Rat) :
    (around infinite xs).low ≠ value q := by
  by_cases hnil : xs = []
  · rw [hnil]
    exact Exact.noConfusion
  · rcases exists_around_eq_widen hxs hnil infinite with ⟨a, b, _, heq, _⟩
    rw [heq]
    show Exact.add (value a) (Exact.neg (infinityOf (b + -a))) ≠ value q
    have hne := infinityOf_ne_value (b + -a)
    cases hinf : infinityOf (b + -a) with
    | value r => exact absurd hinf (hne r)
    | infinite => exact Exact.noConfusion
    | negInfinite => exact Exact.noConfusion
    | undefined => exact Exact.noConfusion

theorem covers_around_of_low_eq_value {margin : Exact} (hmargin : (0.0 : Exact) ≤ margin)
    {xs : List Exact} (hxs : forall x, x ∈ xs -> Scalar.IsFinite x) {q : Rat}
    (hlow : (around margin xs).low = value q) (hx : x ∈ xs) : (around margin xs).Covers x := by
  rcases exists_value_or_eq_infinite_of_nonneg hmargin with ⟨m, hm, rfl⟩ | rfl
  · exact covers_around hm hxs hx
  · exact absurd hlow (around_infinite_low_ne_value hxs q)

theorem covers_foldl_around_of_low_eq_value {margin : Exact} (hmargin : (0.0 : Exact) ≤ margin)
    {xss : List (List Exact)} (hxss : forall xs, xs ∈ xss -> forall x, x ∈ xs -> Scalar.IsFinite x)
    {q : Rat}
    (hlow : (xss.foldl (fun l xs => l.union (around margin xs)) nothing).low = value q)
    {xs : List Exact} (hxs : xs ∈ xss) (hx : x ∈ xs) :
    (xss.foldl (fun l xs => l.union (around margin xs)) nothing).Covers x := by
  rcases exists_value_or_eq_infinite_of_nonneg hmargin with ⟨m, hm, rfl⟩ | rfl
  · exact covers_foldl_union_of_mem hxs (covers_around hm (hxss xs hxs) hx) nothing
  -- An infinite margin can leave numbers uncovered, but then no lower end is rational.
  · refine absurd hlow (foldl_union_low_ne_value ?_ ?_ q)
    · intro q hq
      cases hq
    · intro ys hys
      exact around_infinite_low_ne_value (hxss ys hys)

/-!
## Places
-/

theorem inUnit_normalize {a b : Rat} (hab : a < b)
    (h : Covers { low := value a, high := value b } x) :
    InUnit (normalize { low := value a, high := value b } x) := by
  rcases exists_value_of_between h.1 h.2 with ⟨q, rfl, hlow, hhigh⟩
  have hspan : 0 < b - a := sub_pos.mpr hab
  rw [inUnit_iff]
  refine ⟨(q - a) / (b - a), ?_, ?_, ?_⟩
  · unfold normalize span
    rw [value_sub, value_sub, value_div _ hspan.ne']
  · exact div_nonneg (sub_nonneg.mpr hlow) hspan.le
  · rw [div_le_one hspan]
    linarith

end Limits
end LayeredPlot
