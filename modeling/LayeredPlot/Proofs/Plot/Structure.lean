import LayeredPlot.Number.Exact
import LayeredPlot.Proofs.Layer.Filling
import LayeredPlot.Proofs.Picture.Scene
import LayeredPlot.Proofs.Plot.Resolution

/-!
# The structure of compiled plots

A compiled plot has a layer for each declared one and a scale for each aesthetic that a layer
carries, and for no other.  So nothing that a layer carries is lost or left without a scale on the
way to a scene.
-/

namespace LayeredPlot

variable {num : Type}

/-!
## Scales
-/

section Labels

variable [Scalar num] [NumberText num] {settings : Settings num}

theorem Plot.length_labels_of_scaleOf_eq_ok {declared : Option (ScaleDeclaration num)}
    {name : String} {all : List (Series num)} {s : Scale num}
    (h : scaleOf declared name all settings = .ok s) : s.labels.length = s.breaks.length := by
  cases declared with
  | none =>
      rcases bind_eq_ok.mp h with ⟨d, _, hresolve⟩
      exact ScaleDeclaration.length_labels_of_resolve_eq_ok hresolve
  | some d => exact ScaleDeclaration.length_labels_of_resolve_eq_ok h

end Labels

namespace CompiledPlot

/-!
## Plots and scenes
-/

variable {compiled : CompiledPlot num} {name : String}

def Carries (compiled : CompiledPlot num) (name : String) : Prop :=
  exists l, l ∈ compiled.layers ∧ l.aesthetics.contains name = true

theorem carries_iff : compiled.Carries name ↔ compiled.carried name ≠ [] := by
  unfold Carries carried
  rw [Ne, List.eq_nil_iff_forall_not_mem, not_forall]
  simp only [not_not, Plot.mem_carriedUnder_iff, Table.contains_iff]
  rw [exists_comm]
  simp only [exists_and_left]

section Scene

variable [Scalar num]

/-- An axis explains an aesthetic of a plot if it is there exactly when a layer carries the
aesthetic, with a tick in the place of each break of its scale and a label for each tick. -/
structure Explains (compiled : CompiledPlot num) (name : String) (axis : Option (Axis num)) :
    Prop where
  present : axis.isSome = true ↔ compiled.Carries name
  ticks : forall a, axis = some a -> exists scale, compiled.scales.find? name = some scale ∧
    a.ticks = scale.breaks.map scale.place ∧ a.labels = scale.labels ∧
    a.ticks.length = scale.breaks.length ∧ a.labels.length = scale.breaks.length

theorem explains_map_ofScale
    (hscales : compiled.scales.contains name = true ↔ compiled.Carries name)
    (hlabels : forall scale, compiled.scales.find? name = some scale ->
      scale.labels.length = scale.breaks.length) :
    compiled.Explains name ((compiled.scales.find? name).map Axis.ofScale) where
  present := by
    rw [Option.isSome_map]
    exact hscales
  ticks := by
    intro a ha
    rcases Option.map_eq_some_iff.mp ha with ⟨scale, hscale, rfl⟩
    have hlength := hlabels scale hscale
    refine ⟨scale, hscale, Axis.ticks_ofScale hlength, Axis.labels_ofScale hlength, ?_, ?_⟩
    · rw [Axis.ticks_ofScale hlength, List.length_map]
    · rw [Axis.labels_ofScale hlength, hlength]

variable [NumberText num] {frame : Frame num} {parts : List (PlotPart num)}
  {settings : Settings num}

theorem layers_of_ofParts_eq_ok (h : ofParts frame parts settings = .ok compiled) :
    exists shared, List.Forall₂
      (fun l resolved => l.resolve frame shared = .ok resolved ∧ resolved.mark = l.mark)
      (PlotPart.layers parts) compiled.layers := by
  rcases bind_eq_ok.mp h with ⟨plot, hplot, hcompile⟩
  rcases Plot.assembles_of_ofParts_eq_ok hplot with ⟨_, hassembles⟩
  rcases Plot.compile_eq_ok_iff.mp hcompile with ⟨shared, _, hlayers, _⟩
  rw [hassembles.frame, hassembles.layers, Option.getD_none] at hlayers
  refine ⟨shared, (mapM_eq_ok_iff.mp hlayers).imp ?_⟩
  intro l resolved hresolve
  exact ⟨hresolve, Layer.mark_of_resolve_eq_ok hresolve⟩

theorem contains_scales_iff_of_ofParts_eq_ok (h : ofParts frame parts settings = .ok compiled)
    (name : String) : compiled.scales.contains name = true ↔ compiled.Carries name := by
  rw [carries_iff, Table.contains_iff]
  constructor
  · intro hscale
    rcases hscale with ⟨scale, hscale⟩
    exact (scaleOf_eq_ok_of_find?_eq_some h hscale).1
  · intro hcarried
    rcases exists_scale_of_ne_nil h hcarried with ⟨scale, hscale, _⟩
    exact ⟨scale, hscale⟩

/-- A compiled plot has a layer of the same kind for each declared one, in their order, and scales
for the aesthetics that layers carry, with a label for each break.  Its scene takes up all layers
and has an axis exactly for the positions that layers carry. -/
theorem structure_of_ofParts_eq_ok (h : ofParts frame parts settings = .ok compiled) :
    (exists shared, List.Forall₂
      (fun l resolved => l.resolve frame shared = .ok resolved ∧ resolved.mark = l.mark)
      (PlotPart.layers parts) compiled.layers) ∧
    (forall name, compiled.scales.contains name = true ↔ compiled.Carries name) ∧
    (forall name scale, compiled.scales.find? name = some scale ->
      scale.labels.length = scale.breaks.length) ∧
    List.Forall₂ (SceneLayer.TakesUp compiled.scales) compiled.layers compiled.scene.layers ∧
    compiled.Explains "x" compiled.scene.xAxis ∧ compiled.Explains "y" compiled.scene.yAxis := by
  have hscales := contains_scales_iff_of_ofParts_eq_ok h
  have hlabels : forall name scale, compiled.scales.find? name = some scale ->
      scale.labels.length = scale.breaks.length := by
    intro name scale hscale
    exact Plot.length_labels_of_scaleOf_eq_ok (scaleOf_eq_ok_of_find?_eq_some h hscale).2
  refine ⟨layers_of_ofParts_eq_ok h, hscales, hlabels, ?_, ?_, ?_⟩
  · change List.Forall₂ _ compiled.layers (compiled.layers.map _)
    rw [List.forall₂_map_right_iff, List.forall₂_same]
    intro l hl
    apply SceneLayer.takesUp_ofLayer
    intro name hname
    exact (hscales name).mpr ⟨l, hl, hname⟩
  · exact explains_map_ofScale (hscales "x") (hlabels "x")
  · exact explains_map_ofScale (hscales "y") (hlabels "y")

end Scene

/-!
## A plot of named points
-/

def namedParts : List (PlotPart Exact) :=
  [.mapping (Table.ofList [("x", .column (.name "x")), ("y", .column (.name "y"))]),
    .layer
      { mark := .point, frame := none, mapping := some (Table.singleton "colour"
          (.series (.texts ["p", "q"]))), properties := Table.empty },
    .scale "colour" (.continuous
      { limits := some { low := .value 0, high := .value 1 }, breaks := none, labels := none }),
    .scale "size" (.continuous .empty)]

def pairFrame : Frame Exact :=
  Frame.ofXY [.value 0, .value 1] [.value 5, .value 7]

theorem structure_of_ofParts_namedParts :
    exists compiled, ofParts pairFrame namedParts Settings.standard = .ok compiled ∧
      compiled.scales.contains "size" = false ∧ ¬ compiled.Carries "size" ∧
      List.Forall₂ (SceneLayer.TakesUp compiled.scales) compiled.layers compiled.scene.layers ∧
      compiled.scene.layers.map (fun placed => placed.unscaled.find? "colour")
        = [some (.texts ["p", "q"])] := by
  have hrun : (ofParts pairFrame namedParts Settings.standard).toOption.any (fun compiled =>
      !compiled.scales.contains "size" &&
      decide (compiled.scene.layers.map (fun placed => placed.unscaled.find? "colour")
        = [some (.texts ["p", "q"])])) = true := by
    decide +kernel
  cases hcompiled : ofParts pairFrame namedParts Settings.standard with
  | error e =>
      rw [hcompiled] at hrun
      cases hrun
  | ok compiled =>
      rw [hcompiled] at hrun
      rcases Bool.and_eq_true_iff.mp hrun with ⟨hsize, hcolour⟩
      rcases structure_of_ofParts_eq_ok hcompiled with ⟨_, hscales, _, hlayers, _, _⟩
      have habsent : compiled.scales.contains "size" = false := by simpa using hsize
      refine ⟨compiled, rfl, habsent, ?_, hlayers, of_decide_eq_true hcolour⟩
      rw [← hscales, habsent]
      exact Bool.false_ne_true

end CompiledPlot
end LayeredPlot
