import LayeredPlot.Proofs.Limits

/-!
# Limits of pooled numbers

Without a margin, the limits around rationals go from the least to the greatest of
them, and a union of such limits goes from the least to the greatest of all numbers
together.  Limits around an infinite number are undefined, since a width that is not
finite has no multiple by zero, and a union passes them over.
-/

namespace LayeredPlot

open Exact

namespace Exact

theorem lesser_undefined (x : Exact) : Scalar.lesser x undefined = x := by
  cases x <;> rfl

theorem greater_undefined (x : Exact) : Scalar.greater x undefined = x := by
  cases x <;> rfl

theorem lesser_infinite {x : Exact} (hx : Scalar.IsDefined x) : Scalar.lesser infinite x = x := by
  unfold Scalar.lesser
  rw [if_neg (not_infinite_lt x), if_pos hx]

theorem greater_negInfinite {x : Exact} (hx : Scalar.IsDefined x) :
    Scalar.greater negInfinite x = x := by
  have hlt : ¬ x < negInfinite := by
    cases x <;> exact Bool.false_ne_true
  unfold Scalar.greater
  rw [if_neg hlt, if_pos hx]

theorem infinityOf_zero : infinityOf 0 = undefined := by
  unfold infinityOf
  rw [if_neg (lt_irrefl 0), if_neg (lt_irrefl 0)]

theorem mul_zero_eq_undefined {x : Exact} (h : ¬ Scalar.IsFinite x) : x * value 0 = undefined := by
  cases x with
  | value q => exact absurd (isFinite_iff.mpr ⟨q, rfl⟩) h
  | infinite => exact infinityOf_zero
  | negInfinite => exact infinityOf_zero
  | undefined => rfl

theorem isFinite_of_isFinite_sub {x y : Exact} (h : Scalar.IsFinite (x - y)) :
    Scalar.IsFinite x ∧ Scalar.IsFinite y := by
  rcases isFinite_iff.mp h with ⟨q, hq⟩
  cases x with
  | value p =>
      cases y with
      | value r => exact ⟨isFinite_iff.mpr ⟨p, rfl⟩, isFinite_iff.mpr ⟨r, rfl⟩⟩
      | infinite => cases hq
      | negInfinite => cases hq
      | undefined => cases hq
  | infinite => cases y <;> cases hq
  | negInfinite => cases y <;> cases hq
  | undefined => cases y <;> cases hq

theorem sub_undefined (x : Exact) : x - undefined = undefined := by
  cases x <;> rfl

theorem add_undefined (x : Exact) : x + undefined = undefined := by
  cases x <;> rfl

end Exact

namespace Limits

variable {l m : Limits Exact} {xs ys : List Exact} {xss : List (List Exact)} {x : Exact}

/-!
## Limits without a margin
-/

def undefined : Limits Exact where
  low := Exact.undefined
  high := Exact.undefined

theorem union_undefined (l : Limits Exact) : l.union undefined = l := by
  unfold Limits.union undefined
  rw [lesser_undefined, greater_undefined]

theorem Spans.nothing_union (h : l.Spans xs) : nothing.union l = l := by
  have hlow : Scalar.lesser infinite l.low = l.low := lesser_infinite h.isDefined.1
  have hhigh : Scalar.greater negInfinite l.high = l.high := greater_negInfinite h.isDefined.2
  change ({ low := Scalar.lesser infinite l.low, high := Scalar.greater negInfinite l.high }
    : Limits Exact) = l
  rw [hlow, hhigh]

abbrev AreFinite (xs : List Exact) : Prop :=
  forall x, x ∈ xs -> Scalar.IsFinite x

theorem Spans.areFinite_iff (h : l.Spans xs) :
    AreFinite xs ↔ Scalar.IsFinite l.low ∧ Scalar.IsFinite l.high := by
  constructor
  · intro hfinite
    exact ⟨hfinite l.low h.low_mem, hfinite l.high h.high_mem⟩
  · intro hends x hx
    rcases isFinite_iff.mp hends.1 with ⟨a, ha⟩
    rcases isFinite_iff.mp hends.2 with ⟨b, hb⟩
    rcases h.covers x hx with ⟨hlow, hhigh⟩
    rw [ha] at hlow
    rw [hb] at hhigh
    rcases exists_value_of_between hlow hhigh with ⟨q, rfl, _⟩
    exact isFinite_iff.mpr ⟨q, rfl⟩

theorem widen_zero (hlow : Scalar.IsFinite l.low) (hhigh : Scalar.IsFinite l.high) :
    l.widen (value 0) = l := by
  rcases l with ⟨low, high⟩
  rcases isFinite_iff.mp hlow with ⟨a, rfl⟩
  rcases isFinite_iff.mp hhigh with ⟨b, rfl⟩
  rw [widen_value, mul_zero, sub_zero, add_zero]

theorem widen_zero_eq_undefined (h : ¬ (Scalar.IsFinite l.low ∧ Scalar.IsFinite l.high)) :
    l.widen (value 0) = undefined := by
  have hspan : ¬ Scalar.IsFinite l.span := fun hfinite =>
    h (isFinite_of_isFinite_sub hfinite).symm
  unfold widen undefined
  rw [mul_zero_eq_undefined hspan, sub_undefined, add_undefined]

theorem around_zero_spans (hfinite : AreFinite xs) (hne : xs ≠ []) :
    (around (value 0) xs).Spans xs := by
  have hdefined : forall x, x ∈ xs -> Scalar.IsDefined x :=
    fun x hx => isDefined_of_isFinite (hfinite x hx)
  rcases exists_around_eq hdefined hne (value 0) with ⟨l, hl, heq⟩
  rcases hl.areFinite_iff.mp hfinite with ⟨hlow, hhigh⟩
  rw [heq, widen_zero hlow hhigh]
  exact hl

theorem around_zero_eq_undefined (hdefined : forall x, x ∈ xs -> Scalar.IsDefined x)
    (h : ¬ AreFinite xs) : around (value 0) xs = undefined := by
  by_cases hnil : xs = []
  · rw [hnil]
    rfl
  · rcases exists_around_eq hdefined hnil (value 0) with ⟨l, hl, heq⟩
    rw [heq, widen_zero_eq_undefined fun hends => h (hl.areFinite_iff.mpr hends)]

/-!
## Unions of limits around several lists
-/

/-- Limits that a union over several lists leads to when these are the numbers it takes up. -/
def Pools (l : Limits Exact) (xs : List Exact) : Prop :=
  if xs = [] then l = nothing else l.Spans xs

def finiteNumbers (xss : List (List Exact)) : List Exact :=
  xss.flatMap fun xs => if AreFinite xs then xs else []

theorem pools_nothing : nothing.Pools [] := by
  unfold Pools
  rw [if_pos rfl]

theorem Pools.union_of_spans (hl : l.Pools xs) (hm : m.Spans ys) :
    (l.union m).Pools (xs ++ ys) := by
  have hne : xs ++ ys ≠ [] := List.append_ne_nil_of_right_ne_nil xs (List.ne_nil_of_mem hm.low_mem)
  unfold Pools at hl ⊢
  rw [if_neg hne]
  split at hl
  next hxs =>
      rw [hl, hxs, hm.nothing_union, List.nil_append]
      exact hm
  next => exact hl.union hm

theorem Pools.union_around (h : l.Pools xs) (hdefined : forall y, y ∈ ys -> Scalar.IsDefined y) :
    (l.union (around (value 0) ys)).Pools (xs ++ if AreFinite ys then ys else []) := by
  by_cases hfinite : AreFinite ys
  · rw [if_pos hfinite]
    by_cases hnil : ys = []
    · have hundefined : around (value 0) ys = undefined := by
        rw [hnil]
        rfl
      rw [hundefined, union_undefined, hnil, List.append_nil]
      exact h
    · exact h.union_of_spans (around_zero_spans hfinite hnil)
  · rw [if_neg hfinite, List.append_nil, around_zero_eq_undefined hdefined hfinite,
      union_undefined]
    exact h

theorem Pools.foldl_union_around (h : l.Pools xs)
    (hdefined : forall ys, ys ∈ xss -> forall y, y ∈ ys -> Scalar.IsDefined y) :
    (xss.foldl (fun l ys => l.union (around (value 0) ys)) l).Pools (xs ++ finiteNumbers xss) := by
  induction xss generalizing l xs with
  | nil =>
      change l.Pools (xs ++ [])
      rw [List.append_nil]
      exact h
  | cons ys rest ih =>
      have hrest := ih (h.union_around (hdefined ys List.mem_cons_self))
        (fun zs hzs => hdefined zs (List.mem_cons_of_mem ys hzs))
      rw [List.append_assoc] at hrest
      exact hrest

theorem foldl_union_around_eq_around (hfinite : forall ys, ys ∈ xss -> AreFinite ys)
    (hne : xss.flatten ≠ []) :
    xss.foldl (fun l ys => l.union (around (value 0) ys)) nothing
      = around (value 0) xss.flatten := by
  have hdefined : forall ys, ys ∈ xss -> forall y, y ∈ ys -> Scalar.IsDefined y := by
    intro ys hys y hy
    exact isDefined_of_isFinite (hfinite ys hys y hy)
  have hnumbers : finiteNumbers xss = xss.flatten := by
    unfold finiteNumbers
    rw [← List.flatMap_id']
    apply List.flatMap_congr
    intro ys hys
    exact if_pos (hfinite ys hys)
  have hpools := pools_nothing.foldl_union_around hdefined
  unfold Pools at hpools
  rw [List.nil_append, hnumbers, if_neg hne] at hpools
  apply hpools.unique
  apply around_zero_spans _ hne
  intro x hx
  rcases List.mem_flatten.mp hx with ⟨ys, hys, hx⟩
  exact hfinite ys hys x hx

theorem foldl_union_around_eq_nothing
    (hdefined : forall ys, ys ∈ xss -> forall y, y ∈ ys -> Scalar.IsDefined y)
    (h : forall ys, ys ∈ xss -> ys ≠ [] -> ¬ AreFinite ys) :
    xss.foldl (fun l ys => l.union (around (value 0) ys)) nothing = nothing := by
  have hnumbers : finiteNumbers xss = [] := by
    apply List.flatMap_eq_nil_iff.mpr
    intro ys hys
    split
    next hfinite => exact not_not.mp fun hne => h ys hys hne hfinite
    next => rfl
  have hpools := pools_nothing.foldl_union_around hdefined
  unfold Pools at hpools
  rw [List.nil_append, hnumbers, if_pos rfl] at hpools
  exact hpools

end Limits
end LayeredPlot
