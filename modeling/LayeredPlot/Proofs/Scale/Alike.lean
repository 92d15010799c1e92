import LayeredPlot.Proofs.Limits.Order
import LayeredPlot.Proofs.Scale.Basic
import LayeredPlot.Proofs.Tick.Alike

/-!
# Scales with alike limits

A scale that starts with alike limits gets the same breaks with the same labels, and limits that
are alike again.
-/

namespace LayeredPlot

variable {num : Type} [Scalar num]

structure Scale.Alike (s t : Scale num) : Prop where
  limits : s.limits.Alike t.limits
  breaks : s.breaks = t.breaks
  labels : s.labels = t.labels

variable [Scalar.Lawful num] {l m : Limits num}

namespace ContinuousDeclaration

theorem searchLimits_alike (h : l.Alike m) : (searchLimits l).Alike (searchLimits m) := by
  have hsame : Scalar.Same l.low l.high ↔ Scalar.Same m.low m.high :=
    and_congr (h.1.le_iff h.2) (h.2.le_iff h.1)
  unfold searchLimits
  simp only [hsame]
  split
  · exact ⟨h.1.sub (Scalar.Alike.refl _), h.2.add (Scalar.Alike.refl _)⟩
  · exact h

theorem chooseBreaks_eq_ok_of_alike {c : ContinuousDeclaration num} {settings : Settings num}
    (h : l.Alike m) {breaks : List num} (hbreaks : c.chooseBreaks settings l = .ok breaks) :
    c.chooseBreaks settings m = .ok breaks := by
  unfold chooseBreaks at hbreaks ⊢
  cases hdeclared : c.breaks with
  | some bs =>
      rw [hdeclared] at hbreaks
      exact hbreaks
  | none =>
      rw [hdeclared] at hbreaks
      rcases bind_eq_ok.mp hbreaks with ⟨p, hp, hticks⟩
      have hsearch := searchLimits_alike h
      exact bind_eq_ok.mpr ⟨p, TickOptions.chooseTicks_eq_ok hsearch.1 hsearch.2 hp, hticks⟩

theorem showBreaks_alike (h : l.Alike m) (breaks : List num) :
    (showBreaks breaks l).Alike (showBreaks breaks m) := by
  unfold showBreaks
  split
  · exact ⟨h.1.lesser (Scalar.Alike.refl _), h.2.greater (Scalar.Alike.refl _)⟩
  · exact h

end ContinuousDeclaration

theorem ScaleDeclaration.resolve_eq_ok_of_alike [NumberText num]
    {c d : ContinuousDeclaration num} {values others : Option (Series num)}
    {settings : Settings num} {s : Scale num} (hbreaks : c.breaks = d.breaks)
    (hlabels : c.labels = d.labels)
    (hstart : forall l, c.startLimits values settings = .ok l ->
      exists m, d.startLimits others settings = .ok m ∧ l.Alike m)
    (h : (continuous c).resolve values settings = .ok s) :
    exists t, (continuous d).resolve others settings = .ok t ∧ s.Alike t := by
  rcases resolve_eq_ok_iff.mp h with ⟨_, l, hc, hl, hchosen, hnamed, hshown⟩
  cases hc
  rcases hstart l hl with ⟨m, hm, halike⟩
  have hsame : d.chooseBreaks settings m = .ok s.breaks := by
    have hchosen' := ContinuousDeclaration.chooseBreaks_eq_ok_of_alike halike hchosen
    unfold ContinuousDeclaration.chooseBreaks at hchosen' ⊢
    rwa [← hbreaks]
  have hsame' : d.chooseLabels s.breaks = .ok s.labels := by
    unfold ContinuousDeclaration.chooseLabels at hnamed ⊢
    rwa [← hlabels]
  refine ⟨⟨ContinuousDeclaration.showBreaks s.breaks m, s.breaks, s.labels⟩,
    resolve_eq_ok_iff.mpr ⟨d, m, rfl, hm, hsame, hsame', rfl⟩, ?_, rfl, rfl⟩
  rw [← hshown]
  exact ContinuousDeclaration.showBreaks_alike halike s.breaks

end LayeredPlot
