import LayeredPlot.Number.Exact
import LayeredPlot.Proofs.Plot.Resolution

/-!
# The types of carried series

Scales are for numbers.  A scale that finds its limits in the series of its
aesthetic refuses texts, whether it is declared or not.  A scale with declared
limits does not look at the series, so texts get past it.
-/

namespace LayeredPlot

variable {num : Type} [Scalar num] [NumberText num]

namespace Plot

variable {ds : List (ScaleDeclaration num)} {name : String} {all others : List (Series num)}
  {settings : Settings num} {scale : Scale num}

/-!
## What a scale requires of its series
-/

theorem type_eq_number_of_scaleOf_eq_ok
    (h : scaleOf (ScaleDeclaration.unite? ds) name all settings = .ok scale)
    (hlimits : forall d, d ∈ ds -> d.limits? = none) {s : Series num} (hs : s ∈ all) :
    s.type = .number := by
  cases hunite : ScaleDeclaration.unite? ds with
  | none =>
      rw [hunite] at h
      rcases bind_eq_ok.mp h with ⟨d, hd, _⟩
      exact (inferDeclaration_eq_ok hd).1 s hs
  | some u =>
      rw [hunite] at h
      rcases ScaleDeclaration.resolve_eq_ok_iff.mp h with ⟨c, limits, rfl, hstart, _⟩
      have hnone : c.limits = none := by
        have hfields := (ScaleDeclaration.fields_of_unite?_eq_some hunite).1
        exact hfields.trans (List.findSome?_eq_none_iff.mpr hlimits)
      rcases ContinuousDeclaration.startLimits_eq_ok hnone hstart with
        ⟨concatenated, xs, hvalues, hxs, _⟩
      cases hvalues
      exact (Series.numbers?_concat_eq_some_iff.mp hxs).1 s hs

theorem scaleOf_eq_of_limits_ne_none
    (hlimits : exists d, d ∈ ds ∧ d.limits? ≠ none) (all others : List (Series num)) :
    scaleOf (ScaleDeclaration.unite? ds) name all settings
      = scaleOf (ScaleDeclaration.unite? ds) name others settings := by
  cases hunite : ScaleDeclaration.unite? ds with
  | none =>
      rcases hlimits with ⟨d, hd, _⟩
      rw [ScaleDeclaration.unite?_eq_none_iff.mp hunite] at hd
      cases hd
  | some u =>
      cases u with
      | discrete e => rfl
      | continuous c =>
          have hfields := (ScaleDeclaration.fields_of_unite?_eq_some hunite).1
          cases hc : c.limits with
          | none =>
              rcases hlimits with ⟨d, hd, hne⟩
              exact absurd (List.findSome?_eq_none_iff.mp (hfields.symm.trans hc) d hd) hne
          | some l =>
              change (_ >>= _) = (_ >>= _)
              rw [ContinuousDeclaration.startLimits_of_limits_eq_some hc,
                ContinuousDeclaration.startLimits_of_limits_eq_some hc]

end Plot

namespace CompiledPlot

/-!
## What the layers of a compiled plot carry
-/

/-- The series of a compiled plot are numbers under every aesthetic for which no part declares
limits.  They are numbers throughout exactly if they are so under the aesthetics with declared
limits, whose scales would be the same over any series. -/
theorem carried_are_numbers_iff {frame : Frame num} {parts : List (PlotPart num)}
    {settings : Settings num} {compiled : CompiledPlot num}
    (h : ofParts frame parts settings = .ok compiled) :
    (forall name, (forall d, d ∈ PlotPart.declarationsOf parts name -> d.limits? = none) ->
      forall s, s ∈ compiled.carried name -> s.type = .number) ∧
    (forall name, (exists d, d ∈ PlotPart.declarationsOf parts name ∧ d.limits? ≠ none) ->
      forall others,
        Plot.scaleOf (ScaleDeclaration.unite? (PlotPart.declarationsOf parts name)) name others
          settings
        = Plot.scaleOf (ScaleDeclaration.unite? (PlotPart.declarationsOf parts name)) name
          (compiled.carried name) settings) ∧
    ((forall name s, s ∈ compiled.carried name -> s.type = .number) ↔
      forall name, (exists d, d ∈ PlotPart.declarationsOf parts name ∧ d.limits? ≠ none) ->
        forall s, s ∈ compiled.carried name -> s.type = .number) := by
  have hchecked : forall name,
      (forall d, d ∈ PlotPart.declarationsOf parts name -> d.limits? = none) ->
      forall s, s ∈ compiled.carried name -> s.type = .number := by
    intro name hlimits s hs
    rcases exists_scale_of_ne_nil h (List.ne_nil_of_mem hs) with ⟨scale, _, hscale⟩
    exact Plot.type_eq_number_of_scaleOf_eq_ok hscale hlimits hs
  refine ⟨hchecked, ?_, ?_⟩
  · intro name hlimits others
    exact Plot.scaleOf_eq_of_limits_ne_none hlimits others (compiled.carried name)
  · constructor
    · intro hall name _ s hs
      exact hall name s hs
    · intro hdeclared name s hs
      by_cases hlimits : exists d, d ∈ PlotPart.declarationsOf parts name ∧ d.limits? ≠ none
      · exact hdeclared name hlimits s hs
      · apply hchecked name ?_ s hs
        intro d hd
        exact not_not.mp fun hne => hlimits ⟨d, hd, hne⟩

/-!
## Texts under declared limits
-/

def kindFrame : Frame Exact where
  columns :=
    [{ name := "kind", type := .text, cells := [.text "a", .text "b"] },
      { name := "t", type := .number, cells := [.number (.value 0), .number (.value 1)] }]
  rowCount := 2

def kindParts : List (PlotPart Exact) :=
  [.mapping (Table.ofList [("x", .column (.name "kind")), ("y", .column (.name "t"))]),
    .layer { mark := .point, frame := none, mapping := none, properties := Table.empty },
    .scale "x" (.continuous
      { limits := some { low := .value 0, high := .value 1 }, breaks := none, labels := none })]

theorem exists_ofParts_kindParts_eq_ok :
    exists compiled, ofParts kindFrame kindParts Settings.standard = .ok compiled ∧
      compiled.carried "x" = [.texts ["a", "b"]] := by
  have hsome : (ofParts kindFrame kindParts Settings.standard).toOption.map
      (fun compiled => compiled.carried "x") = some [.texts ["a", "b"]] := by
    decide +kernel
  rcases Option.map_eq_some_iff.mp hsome with ⟨compiled, hcompiled, hx⟩
  exact ⟨compiled, toOption_eq_some_iff.mp hcompiled, hx⟩

theorem carried_are_numbers_iff_kindParts :
    exists compiled, ofParts kindFrame kindParts Settings.standard = .ok compiled ∧
      forall s, s ∈ compiled.carried "y" -> s.type = .number := by
  rcases exists_ofParts_kindParts_eq_ok with ⟨compiled, hcompiled, _⟩
  refine ⟨compiled, hcompiled, (carried_are_numbers_iff hcompiled).1 "y" ?_⟩
  intro d hd
  cases hd

/-- Texts stand under the scale with declared limits of a compiled plot. -/
theorem not_forall_carried_are_numbers :
    ¬ forall (frame : Frame Exact) (parts : List (PlotPart Exact)) (settings : Settings Exact)
        (compiled : CompiledPlot Exact), ofParts frame parts settings = .ok compiled ->
      forall name s, s ∈ compiled.carried name -> s.type = .number := by
  intro hall
  rcases exists_ofParts_kindParts_eq_ok with ⟨compiled, hcompiled, hx⟩
  have htype := hall _ _ _ compiled hcompiled "x" (.texts ["a", "b"])
    (hx ▸ List.mem_singleton_self _)
  cases htype

end CompiledPlot
end LayeredPlot
