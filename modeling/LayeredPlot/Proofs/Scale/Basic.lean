import LayeredPlot.Proofs.Outcome
import LayeredPlot.Scale.Basic

/-!
# Resolving single scales

A declaration is resolved in four steps: limits to start with, breaks, labels,
and limits that show the breaks.
-/

namespace LayeredPlot

variable {num : Type}

namespace ContinuousDeclaration

variable [Scalar num] {c : ContinuousDeclaration num} {values : Option (Series num)}
  {settings : Settings num} {l : Limits num}

theorem startLimits_eq_ok (hnone : c.limits = none)
    (h : c.startLimits values settings = .ok l) :
    exists s xs, values = some s ∧ s.numbers? = some xs ∧ Limits.around settings.margin xs = l := by
  unfold startLimits at h
  rw [hnone] at h
  cases values with
  | none => exact absurd h throw_ne_ok
  | some s =>
      cases hs : s.numbers? with
      | none =>
          simp only [hs] at h
          exact absurd h throw_ne_ok
      | some xs =>
          simp only [hs] at h
          exact ⟨s, xs, rfl, hs, pure_eq_ok.mp h⟩

theorem startLimits_of_numbers (hnone : c.limits = none) {s : Series num} {xs : List num}
    (hxs : s.numbers? = some xs) :
    c.startLimits (some s) settings = .ok (Limits.around settings.margin xs) := by
  unfold startLimits
  simp only [hnone, hxs]
  rfl

theorem startLimits_of_limits_eq_some (hsome : c.limits = some l) :
    c.startLimits values settings = .ok l := by
  unfold startLimits
  rw [hsome]
  rfl

theorem chooseBreaks_of_breaks_eq_some {breaks : List num} (hsome : c.breaks = some breaks) :
    c.chooseBreaks settings l = .ok breaks := by
  unfold chooseBreaks
  rw [hsome]
  rfl

variable [NumberText num] {breaks : List num} {labels : List String}

theorem length_of_chooseLabels_eq_ok (h : c.chooseLabels breaks = .ok labels) :
    labels.length = breaks.length := by
  unfold chooseLabels at h
  split at h
  · split at h
    next hlength =>
        cases pure_eq_ok.mp h
        exact hlength
    next => exact absurd h throw_ne_ok
  · cases pure_eq_ok.mp h
    exact List.length_map _

theorem chooseLabels_eq_ok_iff_of_labels_eq_some (hsome : c.labels = some labels) :
    c.chooseLabels breaks = .ok labels ↔ labels.length = breaks.length := by
  constructor
  · exact length_of_chooseLabels_eq_ok
  · intro hlength
    unfold chooseLabels
    rw [hsome]
    exact if_pos hlength

end ContinuousDeclaration

namespace ScaleDeclaration

variable [Scalar num] [NumberText num] {d : ScaleDeclaration num}
  {values : Option (Series num)} {settings : Settings num} {s : Scale num}

theorem resolve_eq_ok_iff :
    d.resolve values settings = .ok s ↔
      exists c limits, d = .continuous c ∧ c.startLimits values settings = .ok limits ∧
        c.chooseBreaks settings limits = .ok s.breaks ∧ c.chooseLabels s.breaks = .ok s.labels ∧
        ContinuousDeclaration.showBreaks s.breaks limits = s.limits := by
  cases d with
  | discrete e =>
      constructor
      · intro h
        exact absurd h throw_ne_ok
      · intro h
        rcases h with ⟨c, limits, hc, -⟩
        cases hc
  | continuous c =>
      change (_ >>= _) = _ ↔ _
      constructor
      · intro h
        rcases bind_eq_ok.mp h with ⟨limits, hlimits, h⟩
        rcases bind_eq_ok.mp h with ⟨breaks, hbreaks, h⟩
        rcases bind_eq_ok.mp h with ⟨labels, hlabels, h⟩
        cases pure_eq_ok.mp h
        exact ⟨c, limits, rfl, hlimits, hbreaks, hlabels, rfl⟩
      · intro h
        rcases h with ⟨_, limits, hc, hlimits, hbreaks, hlabels, hshow⟩
        cases hc
        apply bind_eq_ok.mpr
        refine ⟨limits, hlimits, ?_⟩
        apply bind_eq_ok.mpr
        refine ⟨s.breaks, hbreaks, ?_⟩
        apply bind_eq_ok.mpr
        refine ⟨s.labels, hlabels, ?_⟩
        rw [hshow]
        rfl

theorem length_labels_of_resolve_eq_ok (h : d.resolve values settings = .ok s) :
    s.labels.length = s.breaks.length := by
  rcases resolve_eq_ok_iff.mp h with ⟨c, limits, _, _, _, hlabels, _⟩
  exact ContinuousDeclaration.length_of_chooseLabels_eq_ok hlabels

end ScaleDeclaration

end LayeredPlot
