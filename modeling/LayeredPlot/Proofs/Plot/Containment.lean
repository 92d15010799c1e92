import LayeredPlot.Proofs.Picture.Panel
import LayeredPlot.Proofs.Picture.Scene
import LayeredPlot.Proofs.Plot.SeriesTypes
import LayeredPlot.Proofs.Scale.Extent

/-!
# Plots inside their panels

Where neither limits nor breaks are declared, every scale of a compiled plot has an
extent and shows all numbers that any layer carries for its aesthetic.  So all places
in the scene of the plot are in the unit interval, and a picture of the scene has
everything but its labels inside the panel.
-/

namespace LayeredPlot

open Exact

namespace Plot

variable {ds : List (ScaleDeclaration Exact)} {name : String} {all : List (Series Exact)}
  {settings : Settings Exact} {scale : Scale Exact}

/-!
## Scales that derive their limits and choose their breaks
-/

def numbersOf (all : List (Series Exact)) : List Exact :=
  all.flatMap fun s => s.numbers?.getD []

theorem mem_numbersOf_iff {x : Exact} :
    x ∈ numbersOf all ↔ exists s xs, s ∈ all ∧ s.numbers? = some xs ∧ x ∈ xs := by
  unfold numbersOf
  rw [List.mem_flatMap]
  constructor
  · intro h
    rcases h with ⟨s, hs, hx⟩
    cases hxs : s.numbers? with
    | none =>
        rw [hxs] at hx
        cases hx
    | some xs =>
        rw [hxs] at hx
        exact ⟨s, xs, hs, hxs, hx⟩
  · intro h
    rcases h with ⟨s, xs, hs, hxs, hx⟩
    refine ⟨s, hs, ?_⟩
    rw [hxs]
    exact hx

theorem shows_of_inferred (hmargin : (0.0 : Exact) ≤ settings.inferredMargin)
    (hfinite : forall x, x ∈ numbersOf all -> Scalar.IsFinite x)
    (h : scaleOf none name all settings = .ok scale) : scale.Shows (numbersOf all) := by
  rcases bind_eq_ok.mp h with ⟨d, hd, hresolve⟩
  rcases inferDeclaration_eq_ok hd with ⟨_, rfl⟩
  apply ScaleDeclaration.shows_of_resolve_eq_ok rfl _ hresolve
  intro l hl hlow x hx
  rcases hlow with ⟨q, hq⟩
  cases (ContinuousDeclaration.startLimits_of_limits_eq_some rfl).symm.trans hl
  rcases mem_numbersOf_iff.mp hx with ⟨s, xs, hs, hxs, hx⟩
  have hxss : xs ∈ all.filterMap Series.numbers? := List.mem_filterMap.mpr ⟨s, hs, hxs⟩
  refine Limits.covers_foldl_around_of_low_eq_value hmargin ?_ hq hxss hx
  intro ys hys y hy
  rcases List.mem_filterMap.mp hys with ⟨s', hs', hys'⟩
  exact hfinite y (mem_numbersOf_iff.mpr ⟨s', ys, hs', hys', hy⟩)

theorem shows_of_declared {c : ContinuousDeclaration Exact} (hlimits : c.limits = none)
    (hbreaks : c.breaks = none) (hmargin : (0.0 : Exact) ≤ settings.margin)
    (hfinite : forall x, x ∈ numbersOf all -> Scalar.IsFinite x)
    (h : scaleOf (some (.continuous c)) name all settings = .ok scale) :
    scale.Shows (numbersOf all) := by
  apply ScaleDeclaration.shows_of_resolve_eq_ok hbreaks _ h
  intro l hl hlow x hx
  rcases hlow with ⟨q, hq⟩
  rcases ContinuousDeclaration.startLimits_eq_ok hlimits hl with ⟨s, xs, hs, hxs, rfl⟩
  cases hs
  rcases Series.numbers?_concat_eq_some_iff.mp hxs with ⟨_, rfl⟩
  exact Limits.covers_around_of_low_eq_value hmargin hfinite hq hx

theorem shows_of_scaleOf_eq_ok (hmargin : (0.0 : Exact) ≤ settings.margin)
    (hinferred : (0.0 : Exact) ≤ settings.inferredMargin)
    (hds : forall d, d ∈ ds -> d.limits? = none ∧ d.breaks? = none)
    (hfinite : forall x, x ∈ numbersOf all -> Scalar.IsFinite x)
    (h : scaleOf (ScaleDeclaration.unite? ds) name all settings = .ok scale) :
    scale.Shows (numbersOf all) := by
  cases hunite : ScaleDeclaration.unite? ds with
  | none =>
      rw [hunite] at h
      exact shows_of_inferred hinferred hfinite h
  | some u =>
      rw [hunite] at h
      rcases ScaleDeclaration.fields_of_unite?_eq_some hunite with ⟨hlimits, hbreaks, _⟩
      rw [List.findSome?_eq_none_iff.mpr fun d hd => (hds d hd).1] at hlimits
      rw [List.findSome?_eq_none_iff.mpr fun d hd => (hds d hd).2] at hbreaks
      cases u with
      | discrete e => exact absurd h throw_ne_ok
      | continuous c => exact shows_of_declared hlimits hbreaks hmargin hfinite h

end Plot

/-!
## Scenes
-/

namespace Axis

theorem exists_of_mem_ticks_ofScale {s : Scale Exact} {t : Exact} (h : t ∈ (ofScale s).ticks) :
    exists b, b ∈ s.breaks ∧ s.place b = t := by
  rcases List.mem_map.mp h with ⟨tick, htick, rfl⟩
  rcases List.mem_map.mp htick with ⟨⟨b, label⟩, hb, rfl⟩
  exact ⟨b, (List.of_mem_zip hb).1, rfl⟩

end Axis

namespace CompiledPlot

variable {compiled : CompiledPlot Exact}

structure ShowsAll (compiled : CompiledPlot Exact) : Prop where
  numeric : forall name s, s ∈ compiled.carried name ->
    exists scale xs, compiled.scales.find? name = some scale ∧ s.numbers? = some xs
  shows : forall name scale, compiled.scales.find? name = some scale ->
    scale.Shows (Plot.numbersOf (compiled.carried name))

theorem ShowsAll.inUnit (h : compiled.ShowsAll) {l : ResolvedLayer Exact}
    (hl : l ∈ compiled.layers) {name : String} {s : Series Exact}
    (hs : l.aesthetics.find? name = some s) {scale : Scale Exact}
    (hscale : compiled.scales.find? name = some scale) {xs : List Exact}
    (hxs : s.numbers? = some xs) {x : Exact} (hx : x ∈ xs) : InUnit (scale.place x) := by
  apply (h.shows name scale hscale).inUnit_value
  exact Plot.mem_numbersOf_iff.mpr ⟨s, xs, Plot.mem_carriedUnder_iff.mpr ⟨l, hl, hs⟩, hxs, hx⟩

theorem ShowsAll.scene_isInUnit (h : compiled.ShowsAll) : compiled.scene.IsInUnit := by
  have hticks : forall name a, (compiled.scales.find? name).map Axis.ofScale = some a ->
      forall t, t ∈ a.ticks -> InUnit t := by
    intro name a ha t ht
    rcases Option.map_eq_some_iff.mp ha with ⟨scale, hscale, rfl⟩
    rcases Axis.exists_of_mem_ticks_ofScale ht with ⟨b, hb, rfl⟩
    exact (h.shows name scale hscale).inUnit_break hb
  constructor
  · exact hticks "x"
  · exact hticks "y"
  · intro placed hplaced name us hus u hu
    rcases List.mem_map.mp hplaced with ⟨l, hl, rfl⟩
    rcases SceneLayer.find?_scaled_eq_some_iff.mp hus with ⟨s, scale, xs, hs, hscale, hxs, rfl⟩
    rcases List.mem_map.mp hu with ⟨x, hx, rfl⟩
    exact h.inUnit hl hs hscale hxs hx

variable {frame : Frame Exact} {parts : List (PlotPart Exact)} {settings : Settings Exact}

theorem showsAll_of_ofParts_eq_ok (hmargin : (0.0 : Exact) ≤ settings.margin)
    (hinferred : (0.0 : Exact) ≤ settings.inferredMargin)
    (hparts : forall name d, d ∈ PlotPart.declarationsOf parts name ->
      d.limits? = none ∧ d.breaks? = none)
    (hfinite : forall name x, x ∈ Plot.numbersOf (compiled.carried name) -> Scalar.IsFinite x)
    (h : ofParts frame parts settings = .ok compiled) : compiled.ShowsAll where
  numeric := by
    intro name s hs
    rcases exists_scale_of_ne_nil h (List.ne_nil_of_mem hs) with ⟨scale, hscale, hresolved⟩
    have htype := Plot.type_eq_number_of_scaleOf_eq_ok hresolved
      (fun d hd => (hparts name d hd).1) hs
    rcases Series.exists_numbers?_eq_some_iff.mpr htype with ⟨xs, hxs⟩
    exact ⟨scale, xs, hscale, hxs⟩
  shows := by
    intro name scale hscale
    rcases scaleOf_eq_ok_of_find?_eq_some h hscale with ⟨_, hresolved⟩
    exact Plot.shows_of_scaleOf_eq_ok hmargin hinferred (hparts name) (hfinite name) hresolved

/-- Where neither limits nor breaks are declared, margins do not move limits inwards and layers
carry only ordinary numbers: the scales of a compiled plot have an extent and place all breaks in
the unit interval, everything that a layer carries is placed in the unit interval by its scene, and
all pictures of the scene stay inside the panel. -/
theorem scene_inside_panel (hmargin : (0.0 : Exact) ≤ settings.margin)
    (hinferred : (0.0 : Exact) ≤ settings.inferredMargin)
    (hparts : forall name d, d ∈ PlotPart.declarationsOf parts name ->
      d.limits? = none ∧ d.breaks? = none)
    (hfinite : forall name x, x ∈ Plot.numbersOf (compiled.carried name) -> Scalar.IsFinite x)
    (h : ofParts frame parts settings = .ok compiled) :
    (forall name scale, compiled.scales.find? name = some scale ->
      scale.limits.low < scale.limits.high ∧
        forall b, b ∈ scale.breaks -> InUnit (scale.place b)) ∧
    (forall (i : Nat) (l : ResolvedLayer Exact), compiled.layers[i]? = some l ->
      exists placed : SceneLayer Exact, compiled.scene.layers[i]? = some placed ∧
        forall name s, l.aesthetics.find? name = some s ->
          exists scale xs, compiled.scales.find? name = some scale ∧ s.numbers? = some xs ∧
            placed.scaled.find? name = some (xs.map scale.place) ∧
            forall x, x ∈ xs -> InUnit (scale.place x)) ∧
    compiled.scene.IsInUnit ∧
    forall c drawn, Canvas.draw c compiled.scene = (drawn, .ok ()) ->
      forall shape, shape ∈ drawn.shapes -> shape.IsInPanel c.width c.height := by
  have hshows := showsAll_of_ofParts_eq_ok hmargin hinferred hparts hfinite h
  refine ⟨?_, ?_, hshows.scene_isInUnit, ?_⟩
  · intro name scale hscale
    have hscaleShows := hshows.shows name scale hscale
    exact ⟨hscaleShows.low_lt_high, fun b hb => hscaleShows.inUnit_break hb⟩
  · intro i l hl
    refine ⟨SceneLayer.ofLayer compiled.scales l, ?_, ?_⟩
    · change (compiled.layers.map (SceneLayer.ofLayer compiled.scales))[i]? = _
      rw [List.getElem?_map, hl, Option.map_some]
    · intro name s hs
      have hmem := List.mem_of_getElem? hl
      rcases hshows.numeric name s (Plot.mem_carriedUnder_iff.mpr ⟨l, hmem, hs⟩) with
        ⟨scale, xs, hscale, hxs⟩
      refine ⟨scale, xs, hscale, hxs, ?_, fun x hx => hshows.inUnit hmem hs hscale hxs hx⟩
      exact SceneLayer.find?_scaled_eq_some_iff.mpr ⟨s, scale, xs, hs, hscale, hxs, rfl⟩
  · intro c drawn hdraw shape hshape
    exact Canvas.isInPanel_of_draw_eq_ok hshows.scene_isInUnit hdraw hshape

/-!
## A plot of three points
-/

def pointFrame : Frame Exact :=
  Frame.ofXY [.value 3, .value 3, .value 3] [.value (1 / 2), .value 7, .value (-4)]

def pointParts : List (PlotPart Exact) :=
  [.scale "x" (.continuous .empty),
    .mapping (Table.ofList [("x", .column (.name "x")), ("y", .column (.name "y"))]),
    .layer { mark := .point, frame := none, mapping := none, properties := Table.empty }]

theorem declarationsOf_pointParts {name : String} {d : ScaleDeclaration Exact}
    (hd : d ∈ PlotPart.declarationsOf pointParts name) :
    d.limits? = none ∧ d.breaks? = none := by
  rcases List.mem_filterMap.mp hd with ⟨ds, hds, hfind⟩
  cases List.mem_singleton.mp hds
  rw [Table.find?_singleton] at hfind
  split at hfind
  · cases hfind
    exact ⟨rfl, rfl⟩
  · cases hfind

theorem isFinite_of_mem_numbersOf
    (h : forall l, l ∈ compiled.layers -> forall e, e ∈ l.aesthetics.entries ->
      forall x, x ∈ e.2.numbers?.getD [] -> Scalar.IsFinite x)
    {name : String} {x : Exact} (hx : x ∈ Plot.numbersOf (compiled.carried name)) :
    Scalar.IsFinite x := by
  rcases Plot.mem_numbersOf_iff.mp hx with ⟨s, xs, hs, hxs, hx⟩
  rcases Plot.mem_carriedUnder_iff.mp hs with ⟨l, hl, hfind⟩
  apply h l hl (name, s) (Table.mem_entries_iff.mpr hfind)
  rw [hxs]
  exact hx

theorem scene_inside_panel_pointParts :
    exists compiled drawn, ofParts pointFrame pointParts Settings.standard = .ok compiled ∧
      Canvas.standard.draw compiled.scene = (drawn, .ok ()) ∧
      forall shape, shape ∈ drawn.shapes -> shape.IsInPanel 800 600 := by
  have hrun : (ofParts pointFrame pointParts Settings.standard).toOption.any (fun compiled =>
      decide (forall l, l ∈ compiled.layers -> forall e, e ∈ l.aesthetics.entries ->
        forall x, x ∈ e.2.numbers?.getD [] -> Scalar.IsFinite x) &&
      (Canvas.standard.draw compiled.scene).2.isOk) = true := by
    decide +kernel
  cases hcompiled : ofParts pointFrame pointParts Settings.standard with
  | error e =>
      rw [hcompiled] at hrun
      cases hrun
  | ok compiled =>
      rw [hcompiled] at hrun
      rcases (Bool.and_eq_true_iff.mp hrun) with ⟨hfinite, hdraw⟩
      cases hdrawn : Canvas.standard.draw compiled.scene with
      | mk drawn result =>
          rw [hdrawn] at hdraw
          cases result with
          | error e => cases hdraw
          | ok done =>
              have hinside := scene_inside_panel (by decide +kernel) (by decide +kernel)
                (fun _ _ hd => declarationsOf_pointParts hd)
                (fun _ _ hx => isFinite_of_mem_numbersOf (of_decide_eq_true hfinite) hx) hcompiled
              exact ⟨compiled, drawn, rfl, hdrawn,
                hinside.2.2.2 Canvas.standard drawn hdrawn⟩

end CompiledPlot
end LayeredPlot
