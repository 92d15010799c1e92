import LayeredPlot.Proofs.Limits.Order
import LayeredPlot.Proofs.Number.Double
import LayeredPlot.Proofs.Scale.Basic
import LayeredPlot.Proofs.Tick.Walk

/-!
# Limits that are moved out to breaks

The limits of a scale are those it starts with, moved out to its first and its last break.  All
breaks are then between them if the breaks ascend, as chosen breaks do; declared breaks in another
order can be left outside.  To move limits out again changes nothing, so a scale whose parts are
all declared as they were resolved is resolved to itself, whatever numbers it is made of.
-/

namespace LayeredPlot

open Scalar

variable {num : Type}

namespace ContinuousDeclaration

/-!
## The first and the last break
-/

variable {breaks : List num} {first last b : num}

theorem exists_ends (hne : breaks ≠ []) :
    exists first last, breaks.head? = some first ∧ breaks.getLast? = some last :=
  ⟨breaks.head hne, breaks.getLast hne, List.head?_eq_some_head hne,
    List.getLast?_eq_some_getLast hne⟩

variable [Scalar num]

theorem covers_ends_of_pairwise (hsorted : breaks.Pairwise (· ≤ ·))
    (hdefined : forall b, b ∈ breaks -> IsDefined b) (hfirst : breaks.head? = some first)
    (hlast : breaks.getLast? = some last) (hb : b ∈ breaks) :
    Limits.Covers { low := first, high := last } b := by
  have hne : breaks ≠ [] := List.ne_nil_of_mem hb
  rw [List.head?_eq_some_head hne, Option.some.injEq] at hfirst
  rw [List.getLast?_eq_some_getLast hne, Option.some.injEq] at hlast
  subst hfirst hlast
  constructor
  · exact hsorted.rel_head_of_rel_head_head hb (hdefined _ (List.head_mem hne))
  · exact hsorted.rel_getLast_of_rel_getLast_getLast hb (hdefined _ (List.getLast_mem hne))

variable {c : ContinuousDeclaration num} {settings : Settings num} {l : Limits num}

theorem showBreaks_nil (l : Limits num) : showBreaks [] l = l := rfl

theorem showBreaks_eq_union (hfirst : breaks.head? = some first)
    (hlast : breaks.getLast? = some last) (l : Limits num) :
    showBreaks breaks l = l.union { low := first, high := last } := by
  unfold showBreaks
  rw [hfirst, hlast]
  rfl

theorem showBreaks_showBreaks (breaks : List num) (l : Limits num) :
    showBreaks breaks (showBreaks breaks l) = showBreaks breaks l := by
  by_cases hnil : breaks = []
  · rw [hnil, showBreaks_nil]
  · rcases exists_ends hnil with ⟨first, last, hfirst, hlast⟩
    simp only [showBreaks_eq_union hfirst hlast, Limits.union_union]

theorem showBreaks_eq_self_or_union (breaks : List num) (l : Limits num) :
    showBreaks breaks l = l ∨ exists first last, first ∈ breaks ∧ last ∈ breaks ∧
      showBreaks breaks l = l.union { low := first, high := last } := by
  by_cases hnil : breaks = []
  · left
    rw [hnil, showBreaks_nil]
  · rcases exists_ends hnil with ⟨first, last, hfirst, hlast⟩
    exact Or.inr ⟨first, last, List.mem_of_head? hfirst, List.mem_of_getLast? hlast,
      showBreaks_eq_union hfirst hlast l⟩

theorem isFinite_showBreaks (hlow : Scalar.IsFinite l.low) (hhigh : Scalar.IsFinite l.high)
    (hbreaks : forall b, b ∈ breaks -> Scalar.IsFinite b) :
    Scalar.IsFinite (showBreaks breaks l).low ∧ Scalar.IsFinite (showBreaks breaks l).high := by
  rcases showBreaks_eq_self_or_union breaks l with heq | ⟨first, last, hfirst, hlast, heq⟩
  · rw [heq]
    exact ⟨hlow, hhigh⟩
  · rw [heq]
    exact ⟨lesser_of_both (P := Scalar.IsFinite) hlow (hbreaks first hfirst),
      greater_of_both (P := Scalar.IsFinite) hhigh (hbreaks last hlast)⟩

/-!
## Breaks between the limits
-/

section Order

variable [LawfulOrder num]

theorem low_showBreaks_le (hlow : IsDefined l.low) (breaks : List num) :
    (showBreaks breaks l).low ≤ l.low := by
  rcases showBreaks_eq_self_or_union breaks l with heq | ⟨first, last, _, _, heq⟩
  · rw [heq]
    exact hlow
  · rw [heq]
    exact lesser_le_left hlow first

theorem high_le_showBreaks (hhigh : IsDefined l.high) (breaks : List num) :
    l.high ≤ (showBreaks breaks l).high := by
  rcases showBreaks_eq_self_or_union breaks l with heq | ⟨first, last, _, _, heq⟩
  · rw [heq]
    exact hhigh
  · rw [heq]
    exact left_le_greater hhigh last

theorem covers_showBreaks (h : l.Covers b) (breaks : List num) :
    (showBreaks breaks l).Covers b := by
  rcases showBreaks_eq_self_or_union breaks l with heq | ⟨first, last, _, _, heq⟩
  · rw [heq]
    exact h
  · rw [heq]
    exact h.union_left { low := first, high := last }

theorem covers_showBreaks_of_pairwise (hsorted : breaks.Pairwise (· ≤ ·))
    (hdefined : forall b, b ∈ breaks -> IsDefined b) (hb : b ∈ breaks) :
    (showBreaks breaks l).Covers b := by
  rcases exists_ends (List.ne_nil_of_mem hb) with ⟨first, last, hfirst, hlast⟩
  rw [showBreaks_eq_union hfirst hlast]
  exact (covers_ends_of_pairwise hsorted hdefined hfirst hlast hb).union_right l

theorem covers_showBreaks_iff (hb : b ∈ breaks) :
    (showBreaks breaks l).Covers b ↔
      forall first last, breaks.head? = some first -> breaks.getLast? = some last ->
        (l.low ≤ b ∨ first ≤ b) ∧ (b ≤ l.high ∨ b ≤ last) := by
  constructor
  · intro hcovers first last hfirst hlast
    rw [showBreaks_eq_union hfirst hlast] at hcovers
    exact Limits.covers_union_iff.mp hcovers
  · intro hends
    rcases exists_ends (List.ne_nil_of_mem hb) with ⟨first, last, hfirst, hlast⟩
    rw [showBreaks_eq_union hfirst hlast]
    exact Limits.covers_union_iff.mpr (hends first last hfirst hlast)

theorem low_lt_high_showBreaks_iff :
    (showBreaks breaks l).low < (showBreaks breaks l).high ↔ l.low < l.high ∨
      exists first last, breaks.head? = some first ∧ breaks.getLast? = some last ∧
        ((first < l.high ∨ l.low < last) ∨ first < last) := by
  by_cases hnil : breaks = []
  · simp [hnil, showBreaks_nil]
  · rcases exists_ends hnil with ⟨first, last, hfirst, hlast⟩
    rw [showBreaks_eq_union hfirst hlast, Limits.low_lt_high_union_iff]
    simp [hfirst, hlast]

theorem ascending_of_chooseBreaks_eq_ok (hnone : c.breaks = none)
    (h : c.chooseBreaks settings l = .ok breaks) :
    breaks.Pairwise (· ≤ ·) ∧ forall b, b ∈ breaks -> IsDefined b := by
  unfold chooseBreaks at h
  rw [hnone] at h
  rcases bind_eq_ok.mp h with ⟨p, _, h⟩
  cases pure_eq_ok.mp h
  constructor
  · exact p.pairwise_ticks.imp Scalar.le_of_lt
  · intro b hb
    exact (LawfulOrder.isDefined_of_le (Progression.between_of_mem_ticks hb).1).2

end Order

structure IsFinite (c : ContinuousDeclaration num) : Prop where
  limits : c.limits.all fun l => Scalar.IsFinite l.low ∧ Scalar.IsFinite l.high
  breaks : c.breaks.all fun bs => bs.all fun b => Scalar.IsFinite b

end ContinuousDeclaration

namespace ScaleDeclaration

open ContinuousDeclaration

variable [Scalar num] [NumberText num] {d : ScaleDeclaration num} {values : Option (Series num)}
  {settings : Settings num} {s : Scale num}

/-- The limits of a resolved scale reach as far as those it starts with.  They cover its breaks
exactly if each of them is from the lower limit or the first break on, and up to the upper limit or
the last break.  So chosen breaks are covered, and so are breaks that ascend. -/
theorem covers_breaks_iff_of_resolve_eq_ok [LawfulOrder num]
    (h : d.resolve values settings = .ok s) :
    exists c l, d = .continuous c ∧ c.startLimits values settings = .ok l ∧
      (IsDefined l.low -> s.limits.low ≤ l.low) ∧ (IsDefined l.high -> l.high ≤ s.limits.high) ∧
      ((forall b, b ∈ s.breaks -> s.limits.Covers b) ↔
        forall first last, s.breaks.head? = some first -> s.breaks.getLast? = some last ->
          forall b, b ∈ s.breaks -> (l.low ≤ b ∨ first ≤ b) ∧ (b ≤ l.high ∨ b ≤ last)) ∧
      (c.breaks = none -> forall b, b ∈ s.breaks -> s.limits.Covers b) ∧
      (s.breaks.Pairwise (· ≤ ·) -> (forall b, b ∈ s.breaks -> IsDefined b) ->
        forall b, b ∈ s.breaks -> s.limits.Covers b) := by
  rcases resolve_eq_ok_iff.mp h with ⟨c, l, hc, hstart, hbreaks, _, hshow⟩
  rw [← hshow]
  refine ⟨c, l, hc, hstart, ?_, ?_, ?_, ?_, ?_⟩
  · intro hlow
    exact low_showBreaks_le hlow s.breaks
  · intro hhigh
    exact high_le_showBreaks hhigh s.breaks
  · constructor
    · intro hcovers first last hfirst hlast b hb
      exact (covers_showBreaks_iff hb).mp (hcovers b hb) first last hfirst hlast
    · intro hends b hb
      refine (covers_showBreaks_iff hb).mpr ?_
      intro first last hfirst hlast
      exact hends first last hfirst hlast b hb
  · intro hnone b hb
    rcases ascending_of_chooseBreaks_eq_ok hnone hbreaks with ⟨hsorted, hdefined⟩
    exact covers_showBreaks_of_pairwise hsorted hdefined hb
  · intro hsorted hdefined b hb
    exact covers_showBreaks_of_pairwise hsorted hdefined hb

def peakedBreaks : ContinuousDeclaration Float where
  limits := some { low := 0.0, high := 1.0 }
  breaks := some [0.0, 5.0, 1.0]
  labels := none

def peakedScale : Scale Float where
  limits := { low := 0.0, high := 1.0 }
  breaks := [0.0, 5.0, 1.0]
  labels := [0.0, 5.0, 1.0].map breakLabel

theorem resolve_peakedBreaks (values : Option (Series Float)) (settings : Settings Float) :
    (continuous peakedBreaks).resolve values settings = .ok peakedScale :=
  rfl

theorem five_mem_peakedScale : (5.0 : Float) ∈ peakedScale.breaks :=
  List.mem_cons_of_mem 0.0 List.mem_cons_self

theorem covers_breaks_iff_peakedBreaks :
    (continuous peakedBreaks).resolve none Settings.standard = .ok peakedScale ∧
      ¬ forall b, b ∈ peakedScale.breaks -> peakedScale.limits.Covers b := by
  have hresolve := resolve_peakedBreaks none Settings.standard
  rcases covers_breaks_iff_of_resolve_eq_ok hresolve with ⟨c, l, hc, hstart, _, _, hiff, _⟩
  cases hc
  cases hstart
  refine ⟨hresolve, ?_⟩
  intro hcovers
  have hends := hiff.mp hcovers 0.0 1.0 rfl rfl 5.0 five_mem_peakedScale
  exact absurd hends.2 (by decide +kernel)

theorem not_forall_covers_breaks :
    ¬ forall (c : ContinuousDeclaration Float) (values : Option (Series Float))
      (settings : Settings Float) (s : Scale Float), (0.0 : Float) ≤ settings.margin ->
      c.IsFinite -> (forall xs, values = some (.numbers xs) ->
        xs ≠ [] ∧ forall x, x ∈ xs -> Scalar.IsFinite x) ->
      (continuous c).resolve values settings = .ok s ->
      forall b, b ∈ s.breaks -> s.limits.Covers b := by
  intro hall
  have hfinite : peakedBreaks.IsFinite := ⟨by decide +kernel, by decide +kernel⟩
  have hcovers := hall peakedBreaks none Settings.standard peakedScale (by decide +kernel) hfinite
    (fun xs hxs => nomatch hxs) (resolve_peakedBreaks none Settings.standard)
  exact absurd (hcovers 5.0 five_mem_peakedScale).2 (by decide +kernel)

end ScaleDeclaration

/-!
## Scales that are declared in full
-/

section Again

variable [Scalar num] [NumberText num] {s t : Scale num} {values : Option (Series num)}
  {settings : Settings num}

namespace Scale

def declaration (s : Scale num) : ScaleDeclaration num :=
  .continuous { limits := some s.limits, breaks := some s.breaks, labels := some s.labels }

theorem resolve_declaration (h : s.labels.length = s.breaks.length) :
    s.declaration.resolve values settings
      = .ok { s with limits := ContinuousDeclaration.showBreaks s.breaks s.limits } :=
  ScaleDeclaration.resolve_eq_ok_iff.mpr ⟨_, s.limits, rfl,
    ContinuousDeclaration.startLimits_of_limits_eq_some rfl,
    ContinuousDeclaration.chooseBreaks_of_breaks_eq_some rfl,
    (ContinuousDeclaration.chooseLabels_eq_ok_iff_of_labels_eq_some rfl).mpr h, rfl⟩

end Scale

/-- A resolved scale that is declared in full is resolved to itself. -/
theorem ScaleDeclaration.resolve_declaration_of_resolve_eq_ok {d : ScaleDeclaration num}
    (h : d.resolve values settings = .ok s) (values' : Option (Series num))
    (settings' : Settings num) : s.declaration.resolve values' settings' = .ok s := by
  rcases resolve_eq_ok_iff.mp h with ⟨c, l, _, _, _, _, hshow⟩
  have hlimits : ContinuousDeclaration.showBreaks s.breaks s.limits = s.limits := by
    rw [← hshow, ContinuousDeclaration.showBreaks_showBreaks]
  rw [Scale.resolve_declaration (length_labels_of_resolve_eq_ok h), hlimits]

end Again

namespace ScaleDeclaration

def strayBreaks : ContinuousDeclaration Float where
  limits := some { low := undefined, high := 1.0 }
  breaks := some [5.0, undefined, 3.0]
  labels := some ["five", "none", "three"]

def strayScale : Scale Float where
  limits := { low := 5.0, high := 3.0 }
  breaks := [5.0, undefined, 3.0]
  labels := ["five", "none", "three"]

theorem resolve_declaration_strayScale :
    (continuous strayBreaks).resolve none Settings.standard = .ok strayScale ∧
      strayScale.declaration.resolve (some (.texts ["a"])) Settings.standard = .ok strayScale := by
  have hresolve : (continuous strayBreaks).resolve none Settings.standard = .ok strayScale := rfl
  exact ⟨hresolve, resolve_declaration_of_resolve_eq_ok hresolve _ _⟩

end ScaleDeclaration

end LayeredPlot
