import LayeredPlot.Proofs.Limits
import LayeredPlot.Proofs.Scale.Basic
import LayeredPlot.Proofs.Tick.Choice

/-!
# The extent of scales with chosen breaks

Breaks that are chosen lie on a window of two ticks or more.  So the limits of a
scale with chosen breaks are rational and have an extent, even where all its values
are the same, and they cover the breaks and whatever the limits that it starts with
cover.
-/

namespace LayeredPlot

open Exact

namespace Scale

/-- A scale shows numbers if its limits are rational, have an extent, and cover its breaks and the
numbers. -/
structure Shows (s : Scale Exact) (xs : List Exact) : Prop where
  extent : exists a b, a < b ∧ s.limits = { low := value a, high := value b }
  breaks : forall b, b ∈ s.breaks -> s.limits.Covers b
  values : forall x, x ∈ xs -> s.limits.Covers x

variable {s : Scale Exact} {xs : List Exact}

theorem Shows.low_lt_high (h : s.Shows xs) : s.limits.low < s.limits.high := by
  rcases h.extent with ⟨a, b, hab, heq⟩
  rw [heq]
  exact value_lt_value.mpr hab

theorem Shows.inUnit_of_covers (h : s.Shows xs) {x : Exact} (hx : s.limits.Covers x) :
    InUnit (s.place x) := by
  rcases h.extent with ⟨a, b, hab, heq⟩
  unfold place
  rw [heq] at hx ⊢
  exact Limits.inUnit_normalize hab hx

theorem Shows.inUnit_break (h : s.Shows xs) {b : Exact} (hb : b ∈ s.breaks) :
    InUnit (s.place b) :=
  h.inUnit_of_covers (h.breaks b hb)

theorem Shows.inUnit_value (h : s.Shows xs) {x : Exact} (hx : x ∈ xs) : InUnit (s.place x) :=
  h.inUnit_of_covers (h.values x hx)

end Scale

namespace ContinuousDeclaration

variable {c : ContinuousDeclaration Exact} {settings : Settings Exact} {l : Limits Exact}
  {breaks : List Exact}

/-!
## Limits between which ticks are searched
-/

theorem exists_eq_of_searchLimits_eq {p q : Rat} (hpq : p < q)
    (hlow : (searchLimits l).low = value p) (hhigh : (searchLimits l).high = value q) :
    exists a b, a ≤ b ∧ l = { low := value a, high := value b } := by
  rcases l with ⟨low, high⟩
  unfold searchLimits at hlow hhigh
  split at hlow
  next hsame =>
      rw [if_pos hsame] at hhigh
      rw [one_eq] at hlow hhigh
      change low + value (-1) = value p at hlow
      rcases exists_value_of_add_eq_value hlow with ⟨a, rfl⟩
      rcases exists_value_of_add_eq_value hhigh with ⟨b, rfl⟩
      exact ⟨a, b, value_le_value.mp hsame.1, rfl⟩
  next hsame =>
      rw [if_neg hsame] at hhigh
      exact ⟨p, q, hpq.le, by rw [← hlow, ← hhigh]⟩

theorem exists_window_of_chooseBreaks_eq_ok (hnone : c.breaks = none)
    (h : c.chooseBreaks settings l = .ok breaks) :
    (exists a b, a ≤ b ∧ l = { low := value a, high := value b }) ∧
      exists w : TickWindow, breaks = w.ticks.ticks := by
  unfold chooseBreaks at h
  rw [hnone] at h
  rcases bind_eq_ok.mp h with ⟨p, hp, h⟩
  cases pure_eq_ok.mp h
  rcases exists_window_of_chooseTicksFrom_eq_ok hp with ⟨a, b, w, hlow, hhigh, hab, rfl⟩
  exact ⟨exists_eq_of_searchLimits_eq hab hlow hhigh, w, rfl⟩

theorem showBreaks_window (w : TickWindow) (a b : Rat) :
    showBreaks w.ticks.ticks { low := value a, high := value b }
      = { low := value (min a w.first), high := value (max b w.last) } := by
  unfold showBreaks
  rw [w.head?_ticks, w.getLast?_ticks, ← lesser_value, ← greater_value]

end ContinuousDeclaration

namespace ScaleDeclaration

variable {c : ContinuousDeclaration Exact} {values : Option (Series Exact)}
  {settings : Settings Exact} {s : Scale Exact} {xs : List Exact}

theorem shows_of_resolve_eq_ok (hbreaks : c.breaks = none)
    (hcovers : forall l, c.startLimits values settings = .ok l ->
      (exists q, l.low = value q) -> forall x, x ∈ xs -> l.Covers x)
    (h : (continuous c).resolve values settings = .ok s) : s.Shows xs := by
  rcases resolve_eq_ok_iff.mp h with ⟨c', limits, hc, hstart, hchoose, _, hshow⟩
  cases hc
  rcases ContinuousDeclaration.exists_window_of_chooseBreaks_eq_ok hbreaks hchoose with
    ⟨⟨a, b, hab, rfl⟩, w, hw⟩
  rw [hw, ContinuousDeclaration.showBreaks_window] at hshow
  constructor
  -- The values may all be the same, but a window has an extent.
  · refine ⟨min a w.first, max b w.last, ?_, hshow.symm⟩
    calc
      min a w.first ≤ w.first := min_le_right a w.first
      _ < w.last := w.first_lt_last
      _ ≤ max b w.last := le_max_right b w.last
  · intro x hx
    rw [hw] at hx
    rcases w.exists_of_mem_ticks hx with ⟨q, rfl, hfirst, hlast⟩
    rw [← hshow]
    constructor
    · exact value_le_value.mpr ((min_le_right a w.first).trans hfirst)
    · exact value_le_value.mpr (hlast.trans (le_max_right b w.last))
  · intro x hx
    rcases hcovers _ hstart ⟨a, rfl⟩ x hx with ⟨hlow, hhigh⟩
    rw [← hshow]
    constructor
    · exact Exact.le_trans (value_le_value.mpr (min_le_left a w.first)) hlow
    · exact Exact.le_trans hhigh (value_le_value.mpr (le_max_left b w.last))

end ScaleDeclaration
end LayeredPlot
