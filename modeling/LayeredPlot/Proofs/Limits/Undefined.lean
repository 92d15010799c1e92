import LayeredPlot.Proofs.Limits.Order
import LayeredPlot.Proofs.Number.Double

/-!
# Limits around undefined numbers

A missing number is an undefined one.  Limits around numbers pass over it unless it is the first
number; then they are undefined, whatever the other numbers are.  So the order of the numbers
matters in that it decides which of them is the first, and in no other way.
-/

namespace LayeredPlot

open Scalar

namespace Limits

section Order

variable {num : Type} [Scalar num] {l : Limits num} {xs ys : List num} {x : num}

def IsUndefined (l : Limits num) : Prop :=
  ¬ IsDefined l.low ∧ ¬ IsDefined l.high

def StartsUndefined (xs : List num) : Prop :=
  exists x, xs.head? = some x ∧ ¬ IsDefined x

def definedNumbers (xs : List num) : List num :=
  xs.filter fun x => IsDefined x

theorem startsUndefined_cons : StartsUndefined (x :: xs) ↔ ¬ IsDefined x := by
  unfold StartsUndefined
  rw [List.head?_cons]
  constructor
  · intro h
    rcases h with ⟨y, hy, hundefined⟩
    cases hy
    exact hundefined
  · intro h
    exact ⟨x, rfl, h⟩

theorem definedNumbers_cons_of_isDefined (hx : IsDefined x) (xs : List num) :
    definedNumbers (x :: xs) = x :: definedNumbers xs := by
  unfold definedNumbers
  rw [List.filter_cons, if_pos (decide_eq_true hx)]

theorem definedNumbers_cons_of_not_isDefined (hx : ¬ IsDefined x) (xs : List num) :
    definedNumbers (x :: xs) = definedNumbers xs := by
  unfold definedNumbers
  rw [List.filter_cons, if_neg fun h => hx (of_decide_eq_true h)]

theorem isDefined_of_mem_definedNumbers (h : x ∈ definedNumbers xs) : IsDefined x :=
  of_decide_eq_true (List.mem_filter.mp h).2

theorem definedNumbers_perm (h : xs.Perm ys) : (definedNumbers xs).Perm (definedNumbers ys) :=
  h.filter _

theorem IsUndefined.alike {m : Limits num} (hl : l.IsUndefined) (hm : m.IsUndefined) : l.Alike m :=
  ⟨Or.inr ⟨hl.1, hm.1⟩, Or.inr ⟨hl.2, hm.2⟩⟩

variable [LawfulOrder num]

theorem Alike.isUndefined_iff {m : Limits num} (h : l.Alike m) :
    l.IsUndefined ↔ m.IsUndefined :=
  and_congr (not_congr h.1.isDefined_iff) (not_congr h.2.isDefined_iff)

/-!
## Numbers that are passed over
-/

theorem extend_of_not_isDefined (l : Limits num) (hx : ¬ IsDefined x) : l.extend x = l := by
  have hlow : ¬ x < l.low := fun h => hx (isDefined_of_lt h).1
  have hhigh : ¬ l.high < x := fun h => hx (isDefined_of_lt h).2
  unfold extend
  rw [if_neg hlow, if_neg hhigh]

theorem extend_of_isUndefined (h : l.IsUndefined) (x : num) : l.extend x = l := by
  have hlow : ¬ x < l.low := fun hlt => h.1 (isDefined_of_lt hlt).2
  have hhigh : ¬ l.high < x := fun hlt => h.2 (isDefined_of_lt hlt).1
  unfold extend
  rw [if_neg hlow, if_neg hhigh]

theorem foldl_extend_definedNumbers (l : Limits num) (xs : List num) :
    (definedNumbers xs).foldl extend l = xs.foldl extend l := by
  induction xs generalizing l with
  | nil => rfl
  | cons x rest ih =>
      by_cases hx : IsDefined x
      · rw [definedNumbers_cons_of_isDefined hx, List.foldl_cons, List.foldl_cons, ih]
      · rw [definedNumbers_cons_of_not_isDefined hx, List.foldl_cons, extend_of_not_isDefined l hx,
          ih]

theorem foldl_extend_of_isUndefined (h : l.IsUndefined) (xs : List num) :
    xs.foldl extend l = l := by
  induction xs with
  | nil => rfl
  | cons x rest ih => rw [List.foldl_cons, extend_of_isUndefined h, ih]

theorem around_of_not_startsUndefined (h : ¬ StartsUndefined xs) (margin : num) :
    around margin xs = around margin (definedNumbers xs) := by
  cases xs with
  | nil => rfl
  | cons x rest =>
      have hx : IsDefined x := not_not.mp fun hundefined => h (startsUndefined_cons.mpr hundefined)
      rw [definedNumbers_cons_of_isDefined hx]
      change widen margin (rest.foldl extend _)
        = widen margin ((definedNumbers rest).foldl extend _)
      rw [foldl_extend_definedNumbers]

theorem around_cons_of_not_isDefined (hx : ¬ IsDefined x) (margin : num) (rest : List num) :
    around margin (x :: rest) = widen margin { low := x, high := x } := by
  have hends : IsUndefined ({ low := x, high := x } : Limits num) := ⟨hx, hx⟩
  change widen margin (rest.foldl extend _) = _
  rw [foldl_extend_of_isUndefined hends]

end Order

/-!
## Lists of doubles
-/

variable {xs ys : List Float}

theorem isUndefined_around_of_startsUndefined (h : StartsUndefined xs) (margin : Float) :
    (around margin xs).IsUndefined := by
  cases xs with
  | nil =>
      rcases h with ⟨x, hx, _⟩
      cases hx
  | cons x rest =>
      have hx : ¬ IsDefined x := startsUndefined_cons.mp h
      rw [around_cons_of_not_isDefined hx]
      exact ⟨Double.not_isDefined_sub hx _, Double.not_isDefined_add hx _⟩

theorem around_definedNumbers_alike (h : xs.Perm ys) (margin : Float) :
    (around margin (definedNumbers xs)).Alike (around margin (definedNumbers ys)) :=
  Alike.around (fun _ hx => isDefined_of_mem_definedNumbers hx) (definedNumbers_perm h) margin

/-- The limits around the same numbers in another order are the same, up to the signs of zeros, if
both orders begin with a number or both with an undefined one.  If only one of them begins with an
undefined number, they differ, unless the limits around the defined numbers are undefined too. -/
theorem around_alike_iff_of_perm (hperm : xs.Perm ys) (margin : Float) :
    (around margin xs).Alike (around margin ys) ↔
      (StartsUndefined xs ↔ StartsUndefined ys) ∨
        (around margin (definedNumbers xs)).IsUndefined := by
  have hnumbers := around_definedNumbers_alike hperm margin
  by_cases hxs : StartsUndefined xs
  · have hleft := isUndefined_around_of_startsUndefined hxs margin
    by_cases hys : StartsUndefined ys
    · exact iff_of_true (hleft.alike (isUndefined_around_of_startsUndefined hys margin))
        (Or.inl (iff_of_true hxs hys))
    · rw [around_of_not_startsUndefined hys]
      constructor
      · intro h
        exact Or.inr (hnumbers.isUndefined_iff.mpr (h.isUndefined_iff.mp hleft))
      · intro h
        have hundefined := h.resolve_left fun hiff => hys (hiff.mp hxs)
        exact hleft.alike (hnumbers.isUndefined_iff.mp hundefined)
  · rw [around_of_not_startsUndefined hxs]
    by_cases hys : StartsUndefined ys
    · have hright := isUndefined_around_of_startsUndefined hys margin
      constructor
      · intro h
        exact Or.inr (h.isUndefined_iff.mpr hright)
      · intro h
        exact (h.resolve_left fun hiff => hxs (hiff.mpr hys)).alike hright
    · rw [around_of_not_startsUndefined hys]
      exact iff_of_true hnumbers (Or.inl (iff_of_false hxs hys))

theorem around_alike_iff_of_perm_threeRows :
    ([3, undefined, 1] : List Float).Perm [1, 3, undefined] ∧
      (around 0.05 ([3, undefined, 1] : List Float)).Alike (around 0.05 [1, 3, undefined]) := by
  have hperm : (([3, undefined] : List Float) ++ [1]).Perm ([1] ++ [3, undefined]) :=
    List.perm_append_comm
  have hthree : IsDefined (3 : Float) := by decide +kernel
  have hone : IsDefined (1 : Float) := by decide +kernel
  have hstarts : StartsUndefined ([3, undefined, 1] : List Float)
      ↔ StartsUndefined ([1, 3, undefined] : List Float) := by
    rw [startsUndefined_cons, startsUndefined_cons]
    exact iff_of_false (not_not.mpr hthree) (not_not.mpr hone)
  exact ⟨hperm, (around_alike_iff_of_perm hperm 0.05).mpr (Or.inl hstarts)⟩

/-- With the missing number in the first row there are no limits, and with the same number in the
second row there are. -/
theorem not_forall_around_alike_of_perm :
    ¬ forall (xs ys : List Float) (margin : Float), xs.Perm ys ->
      (around margin xs).Alike (around margin ys) := by
  intro hall
  have hperm : ([undefined, 1, 2] : List Float).Perm [1, undefined, 2] :=
    List.Perm.swap 1 undefined [2]
  have halike := hall _ _ 0 hperm
  have hleft : ¬ IsDefined (around 0 ([undefined, 1, 2] : List Float)).low := by decide +kernel
  have hright : IsDefined (around 0 ([1, undefined, 2] : List Float)).low := by decide +kernel
  exact hleft (halike.1.isDefined_iff.mpr hright)

end Limits
end LayeredPlot
