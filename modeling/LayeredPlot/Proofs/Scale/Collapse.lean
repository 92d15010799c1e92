import LayeredPlot.Proofs.Scale.Extent
import LayeredPlot.Proofs.Scale.Pooling
import LayeredPlot.Proofs.Scale.Widening

/-!
# Scales that collapse

Limits around numbers that are all the same have no extent, and no margin gives them one.  Breaks
that are chosen for such limits lie on both sides of them and give the scale an extent.  Declared
breaks do so only if the first or the last of them leads away from the numbers; otherwise the
scale collapses, and the numbers have no place on it.
-/

namespace LayeredPlot

open Exact

namespace Limits

variable {l : Limits Exact} {xs : List Exact} {margin x : Exact}

theorem zero_lt_span_iff : (0.0 : Exact) < l.span ↔ l.low < l.high := by
  rw [zero_eq]
  rcases l with ⟨low, high⟩
  unfold span
  cases low <;> cases high
  case value.value a b => rw [value_sub, value_lt_value, value_lt_value, sub_pos]
  all_goals exact Iff.rfl

theorem normalize_self (hx : Scalar.IsFinite x) :
    normalize { low := x, high := x } x = Exact.undefined := by
  rcases isFinite_iff.mp hx with ⟨q, rfl⟩
  unfold normalize span
  rw [value_sub, sub_self]
  exact infinityOf_zero

theorem eq_of_covers_of_not_lt (hcovers : l.Covers x) (h : ¬ l.low < l.high) :
    l = { low := x, high := x } := by
  rcases l with ⟨low, high⟩
  rcases hcovers with ⟨hlow, hhigh⟩
  have hhigh' : high ≤ low :=
    Scalar.le_of_not_lt (isDefined_of_le hlow).1 (isDefined_of_le hhigh).2 h
  cases Exact.le_antisymm hlow (Exact.le_trans hhigh hhigh')
  cases Exact.le_antisymm hhigh hhigh'
  rfl

/-!
## Limits around numbers that are all the same
-/

def Vary (xs : List Exact) : Prop :=
  exists x y, x ∈ xs ∧ y ∈ xs ∧ x < y

theorem Spans.vary_iff (h : l.Spans xs) : Vary xs ↔ l.low < l.high := by
  constructor
  · intro hvary
    rcases hvary with ⟨x, y, hx, hy, hlt⟩
    have hlow : l.low < y := Scalar.lt_of_le_of_lt (h.covers x hx).1 hlt
    exact Scalar.lt_of_lt_of_le hlow (h.covers y hy).2
  · intro hlt
    exact ⟨l.low, l.high, h.low_mem, h.high_mem, hlt⟩

theorem widen_value_self (m : Rat) (hx : Scalar.IsFinite x) :
    widen (value m) { low := x, high := x } = { low := x, high := x } := by
  rcases isFinite_iff.mp hx with ⟨q, rfl⟩
  rw [widen_value, sub_self, zero_mul, sub_zero, add_zero]

theorem widen_infinite_self (hx : Scalar.IsFinite x) :
    widen infinite { low := x, high := x } = undefined := by
  rcases isFinite_iff.mp hx with ⟨q, rfl⟩
  have hpart : span { low := value q, high := value q } * infinite = Exact.undefined := by
    unfold span
    rw [value_sub, sub_self]
    exact infinityOf_zero
  unfold widen undefined
  rw [hpart, sub_undefined, add_undefined]

theorem low_lt_high_widen_iff (hmargin : (0.0 : Exact) ≤ margin) (hlow : Scalar.IsFinite l.low)
    (hhigh : Scalar.IsFinite l.high) (hle : l.low ≤ l.high) :
    (l.widen margin).low < (l.widen margin).high ↔ l.low < l.high := by
  rcases l with ⟨low, high⟩
  rcases isFinite_iff.mp hlow with ⟨a, rfl⟩
  rcases isFinite_iff.mp hhigh with ⟨b, rfl⟩
  have hab : a ≤ b := value_le_value.mp hle
  rcases exists_value_or_eq_infinite_of_nonneg hmargin with ⟨m, hm, rfl⟩ | rfl
  · have hpart : 0 ≤ (b - a) * m := mul_nonneg (sub_nonneg.mpr hab) hm
    rw [widen_value, value_lt_value, value_lt_value]
    constructor
    · intro hlt
      rcases hab.eq_or_lt with rfl | h
      · rw [sub_self, zero_mul, sub_zero, add_zero] at hlt
        exact hlt
      · exact h
    · intro h
      linarith
  · rcases hab.eq_or_lt with rfl | h
    · rw [widen_infinite_self hlow]
      exact iff_of_false Bool.false_ne_true (not_self_lt _)
    · have hpart : span { low := value a, high := value b } * infinite = infinite := by
        unfold span
        rw [value_sub]
        exact if_pos (sub_pos.mpr h)
      unfold widen
      rw [hpart]
      exact iff_of_true rfl (value_lt_value.mpr h)

theorem low_lt_high_around_iff (hmargin : (0.0 : Exact) ≤ margin) (hxs : AreFinite xs) :
    (around margin xs).low < (around margin xs).high ↔ Vary xs := by
  by_cases hnil : xs = []
  · subst hnil
    refine iff_of_false Bool.false_ne_true ?_
    intro h
    rcases h with ⟨x, y, hx, _⟩
    cases hx
  · rcases exists_around_eq (fun x hx => isDefined_of_isFinite (hxs x hx)) hnil margin with
      ⟨l, hl, heq⟩
    rcases hl.areFinite_iff.mp hxs with ⟨hlow, hhigh⟩
    rw [heq, low_lt_high_widen_iff hmargin hlow hhigh (hl.covers _ hl.low_mem).2, hl.vary_iff]

theorem around_eq_widen_of_not_vary (hxs : AreFinite xs) (h : ¬ Vary xs) (hx : x ∈ xs)
    (margin : Exact) : around margin xs = widen margin { low := x, high := x } := by
  rcases exists_around_eq (fun y hy => isDefined_of_isFinite (hxs y hy)) (List.ne_nil_of_mem hx)
    margin with ⟨l, hl, heq⟩
  have hcollapsed := eq_of_covers_of_not_lt (hl.covers x hx) (hl.vary_iff.not.mp h)
  rw [heq, hcollapsed]

theorem isFinite_around (hmargin : Scalar.IsFinite margin) (hxs : AreFinite xs) (hne : xs ≠ []) :
    Scalar.IsFinite (around margin xs).low ∧ Scalar.IsFinite (around margin xs).high := by
  rcases isFinite_iff.mp hmargin with ⟨m, rfl⟩
  rcases exists_around_eq_widen hxs hne (value m) with ⟨a, b, _, heq, _⟩
  rw [heq, widen_value]
  exact ⟨isFinite_iff.mpr ⟨_, rfl⟩, isFinite_iff.mpr ⟨_, rfl⟩⟩

end Limits

open Limits

/-!
## Breaks that lead away
-/

section Breaks

variable {margin first last : Exact} {xs breaks : List Exact}

/-- The first break or the last one leads away from the numbers, or they are in order.  An infinite
margin leaves no limits around numbers that are all the same, and so none to lead away from. -/
def LeadAway (margin : Exact) (xs breaks : List Exact) : Prop :=
  exists first last, breaks.head? = some first ∧ breaks.getLast? = some last ∧
    ((Scalar.IsFinite margin ∧ exists x, x ∈ xs ∧ (first < x ∨ x < last)) ∨ first < last)

theorem Limits.lt_around_or_around_lt_iff (hmargin : (0.0 : Exact) ≤ margin) (hxs : AreFinite xs)
    (hne : xs ≠ []) (h : ¬ Vary xs) :
    first < (around margin xs).high ∨ (around margin xs).low < last ↔
      Scalar.IsFinite margin ∧ exists x, x ∈ xs ∧ (first < x ∨ x < last) := by
  have hhead : xs.head hne ∈ xs := List.head_mem hne
  rcases exists_value_or_eq_infinite_of_nonneg hmargin with ⟨m, _, rfl⟩ | rfl
  · have haround : forall x, x ∈ xs -> around (value m) xs = { low := x, high := x } := by
      intro x hx
      rw [around_eq_widen_of_not_vary hxs h hx, widen_value_self m (hxs x hx)]
    constructor
    · intro hlt
      rw [haround _ hhead] at hlt
      exact ⟨isFinite_iff.mpr ⟨m, rfl⟩, xs.head hne, hhead, hlt⟩
    · intro hlt
      rcases hlt with ⟨_, x, hx, hlt⟩
      rw [haround x hx]
      exact hlt
  · constructor
    · intro hlt
      rw [around_eq_widen_of_not_vary hxs h hhead, widen_infinite_self (hxs _ hhead)] at hlt
      rcases hlt with hlt | hlt
      · exact absurd (isDefined_of_lt hlt).2 Bool.false_ne_true
      · exact absurd (isDefined_of_lt hlt).1 Bool.false_ne_true
    · intro hlt
      exact absurd hlt.1.2 Bool.false_ne_true

theorem ContinuousDeclaration.low_lt_high_showBreaks_around_iff
    (hmargin : (0.0 : Exact) ≤ margin) (hxs : AreFinite xs) (hne : xs ≠ []) :
    (showBreaks breaks (around margin xs)).low < (showBreaks breaks (around margin xs)).high ↔
      Vary xs ∨ LeadAway margin xs breaks := by
  rw [low_lt_high_showBreaks_iff, low_lt_high_around_iff hmargin hxs]
  by_cases hvary : Vary xs
  · exact iff_of_true (Or.inl hvary) (Or.inl hvary)
  · unfold LeadAway
    simp only [lt_around_or_around_lt_iff hmargin hxs hne hvary]

end Breaks

namespace ScaleDeclaration

open ContinuousDeclaration

variable {c : ContinuousDeclaration Exact} {settings : Settings Exact} {s : Scale Exact}
  {xs : List Exact}

/-!
## Scales with limits from their values
-/

section Derived

variable (hnone : c.limits = none) (hxs : AreFinite xs) (hne : xs ≠ [])
  (hmargin : (0.0 : Exact) ≤ settings.margin)
  (h : (continuous c).resolve (some (.numbers xs)) settings = .ok s)

include hnone h

theorem limits_eq_showBreaks_around :
    s.limits = showBreaks s.breaks (around settings.margin xs) := by
  rcases resolve_eq_ok_iff.mp h with ⟨c', l, hc, hstart, _, _, hshow⟩
  cases hc
  rw [startLimits_of_numbers hnone rfl] at hstart
  cases hstart
  exact hshow.symm

include hxs hmargin

theorem shows_of_chosen_breaks (hbreaks : c.breaks = none) : s.Shows xs := by
  refine shows_of_resolve_eq_ok hbreaks ?_ h
  intro l hl hlow x hx
  rw [startLimits_of_numbers hnone rfl] at hl
  cases hl
  rcases hlow with ⟨q, hq⟩
  exact covers_around_of_low_eq_value hmargin hxs hq hx

theorem covers_value_of_isFinite_margin (hfinite : Scalar.IsFinite settings.margin) {x : Exact}
    (hx : x ∈ xs) : s.limits.Covers x := by
  rcases isFinite_iff.mp hfinite with ⟨m, hm⟩
  rw [hm, zero_eq] at hmargin
  rw [limits_eq_showBreaks_around hnone h, hm]
  exact covers_showBreaks (covers_around (value_le_value.mp hmargin) hxs hx) s.breaks

theorem inUnit_value_of_isFinite (hfinite : Scalar.IsFinite settings.margin)
    (hbreaks : AreFinite s.breaks) (hlt : s.limits.low < s.limits.high) {x : Exact}
    (hx : x ∈ xs) : InUnit (s.place x) := by
  have hcovers := covers_value_of_isFinite_margin hnone hxs hmargin h hfinite hx
  have haround := isFinite_around hfinite hxs (List.ne_nil_of_mem hx)
  have hends := isFinite_showBreaks haround.1 haround.2 hbreaks
  rw [← limits_eq_showBreaks_around hnone h] at hends
  rcases s with ⟨⟨low, high⟩, breaks, labels⟩
  rcases isFinite_iff.mp hends.1 with ⟨a, rfl⟩
  rcases isFinite_iff.mp hends.2 with ⟨b, rfl⟩
  exact inUnit_normalize (value_lt_value.mp hlt) hcovers

include hne

/-- A scale with limits from numbers has an extent exactly if the numbers are not all the same or
its breaks lead away from them; chosen breaks do.  The numbers are then placed in the unit interval
unless the margin or a declared break is infinite.  Where a finite margin leaves the scale without
an extent, no number is placed anywhere. -/
theorem extent_of_derived_limits :
    (s.limits.low < s.limits.high ↔ Vary xs ∨ LeadAway settings.margin xs s.breaks) ∧
      ((0.0 : Exact) < s.limits.span ↔ s.limits.low < s.limits.high) ∧
      (c.breaks = none -> s.limits.low < s.limits.high ∧ forall x, x ∈ xs -> InUnit (s.place x)) ∧
      (s.limits.low < s.limits.high -> Scalar.IsFinite settings.margin -> AreFinite s.breaks ->
        forall x, x ∈ xs -> InUnit (s.place x)) ∧
      (¬ s.limits.low < s.limits.high -> Scalar.IsFinite settings.margin ->
        forall x, x ∈ xs -> s.limits = { low := x, high := x } ∧ s.place x = Exact.undefined) := by
  refine ⟨?_, zero_lt_span_iff, ?_, ?_, ?_⟩
  · rw [limits_eq_showBreaks_around hnone h]
    exact low_lt_high_showBreaks_around_iff hmargin hxs hne
  · intro hbreaks
    have hshows := shows_of_chosen_breaks hnone hxs hmargin h hbreaks
    exact ⟨hshows.low_lt_high, fun x hx => hshows.inUnit_value hx⟩
  · intro hlt hfinite hbreaks x hx
    exact inUnit_value_of_isFinite hnone hxs hmargin h hfinite hbreaks hlt hx
  · intro hlt hfinite x hx
    have hcovers := covers_value_of_isFinite_margin hnone hxs hmargin h hfinite hx
    have hlimits := eq_of_covers_of_not_lt hcovers hlt
    refine ⟨hlimits, ?_⟩
    unfold Scale.place
    rw [hlimits]
    exact normalize_self (hxs x hx)

end Derived

def fives : List Exact :=
  [value 5, value 5]

def onlyBreaks (breaks : List Exact) : ContinuousDeclaration Exact where
  limits := none
  breaks := some breaks
  labels := none

def scaleOverFives (breaks : List Exact) : Scale Exact where
  limits := showBreaks breaks (around Settings.standard.margin fives)
  breaks := breaks
  labels := breaks.map breakLabel

theorem resolve_onlyBreaks (breaks : List Exact) :
    (continuous (onlyBreaks breaks)).resolve (some (.numbers fives)) Settings.standard
      = .ok (scaleOverFives breaks) :=
  rfl

theorem areFinite_fives : AreFinite fives := by
  decide

theorem margin_standard_nonneg : (0.0 : Exact) ≤ Settings.standard.margin := by
  decide +kernel

theorem extent_of_derived_limits_fives :
    (continuous (onlyBreaks [value 3, value 4])).resolve (some (.numbers fives)) Settings.standard
        = .ok (scaleOverFives [value 3, value 4]) ∧
      (scaleOverFives [value 3, value 4]).limits.low
        < (scaleOverFives [value 3, value 4]).limits.high := by
  have hresolve := resolve_onlyBreaks [value 3, value 4]
  have hextent := extent_of_derived_limits rfl areFinite_fives (List.cons_ne_nil _ _)
    margin_standard_nonneg hresolve
  have hlt : value 3 < value 4 := value_lt_value.mpr (by norm_num)
  exact ⟨hresolve, hextent.1.mpr (Or.inr ⟨value 3, value 4, rfl, rfl, Or.inr hlt⟩)⟩

/-- A declared break at the only number leaves the scale collapsed. -/
theorem not_forall_low_lt_high :
    ¬ forall (c : ContinuousDeclaration Exact) (xs : List Exact) (settings : Settings Exact)
      (s : Scale Exact), c.limits = none -> AreFinite xs -> xs ≠ [] ->
      (0.0 : Exact) ≤ settings.margin ->
      (continuous c).resolve (some (.numbers xs)) settings = .ok s ->
      s.limits.low < s.limits.high := by
  intro hall
  have hlt := hall (onlyBreaks [value 5]) fives Settings.standard (scaleOverFives [value 5]) rfl
    areFinite_fives (List.cons_ne_nil _ _) margin_standard_nonneg (resolve_onlyBreaks [value 5])
  exact absurd hlt (by decide +kernel)

end ScaleDeclaration
end LayeredPlot
