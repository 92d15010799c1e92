import LayeredPlot.Number.Exact
import LayeredPlot.Proofs.Layer.Evaluation
import LayeredPlot.Proofs.Layer.Filling
import LayeredPlot.Proofs.Plot.Resolution

/-!
# Mappings that layers share

A mapping for the whole plot is evaluated once and layers take from it what their marks know, while
the mapping of a layer is evaluated for that layer and kept as a whole.  For layers without series
of their own it is all the same whether they share a mapping or each of them has it, as long as
their marks know all its names.
-/

namespace LayeredPlot

variable {num : Type}

/-!
## Layers
-/

namespace Layer

def withMapping (m : Mapping num) (layer : Layer num) : Layer num :=
  { layer with mapping := some m }

variable [Scalar num] {layer : Layer num} {m : Mapping num} {frame : Frame num}
  {shared : Table (Series num)}

/-- A layer defers to a mapping if it has neither series nor data of its own and its mark knows all
names of the mapping, none of which is that of a property. -/
structure Defers (layer : Layer num) (m : Mapping num) : Prop where
  mapping : layer.mapping = none
  frame : layer.frame = none
  known : forall name, m.contains name = true ->
    exists rule : AestheticRule num, rule ∈ layer.mark.rules ∧ rule.name = name
  free : forall name, m.contains name = true -> layer.properties.contains name = false

theorem defers_of_forall_mem_names (hmapping : layer.mapping = none) (hframe : layer.frame = none)
    (hnames : forall name, name ∈ m.names ->
      name ∈ (layer.mark.rules : List (AestheticRule num)).map AestheticRule.name ∧
        layer.properties.contains name = false) : layer.Defers m where
  mapping := hmapping
  frame := hframe
  known := by
    intro name hname
    exact List.mem_map.mp (hnames name (Table.mem_names_iff.mpr (Table.contains_iff.mp hname))).1
  free := by
    intro name hname
    exact (hnames name (Table.mem_names_iff.mpr (Table.contains_iff.mp hname))).2

theorem Defers.ownSeries_eq (h : layer.Defers m) (frame : Frame num) :
    layer.ownSeries frame = .ok Table.empty := by
  unfold Layer.ownSeries
  rw [h.mapping]
  rfl

theorem Defers.ownSeries_withMapping (h : layer.Defers m) (frame : Frame num) :
    (layer.withMapping m).ownSeries frame = m.evaluate frame := by
  change m.evaluate (layer.frame.getD frame) = _
  rw [h.frame]
  rfl

theorem Defers.find?_eq_none (h : layer.Defers m) (hshared : m.evaluate frame = .ok shared)
    {name : String} (hname : (layer.mark.rule? name : Option (AestheticRule num)) = none) :
    shared.find? name = none := by
  apply Table.not_contains_iff.mp
  intro hcontains
  rcases h.known name (Mapping.contains_of_evaluate_eq_ok hshared hcontains) with ⟨rule, hrule⟩
  cases hname.symm.trans (Mark.rule?_eq_some_iff.mpr hrule)

theorem Defers.find?_properties_eq_none (h : layer.Defers m)
    (hshared : m.evaluate frame = .ok shared) {name : String} {s : Series num}
    (hname : shared.find? name = some s) : layer.properties.find? name = none := by
  have hcontains := Mapping.contains_of_evaluate_eq_ok hshared (Table.contains_iff.mpr ⟨s, hname⟩)
  exact Table.not_contains_iff.mp (Bool.not_eq_true _ ▸ h.free name hcontains)

theorem lacks_started_comm {rule : AestheticRule num} (h : rule ∈ layer.mark.rules) :
    (layer.started shared).lacks Table.empty rule
      = (layer.started Table.empty).lacks shared rule := by
  unfold ResolvedLayer.lacks
  rw [Mark.inherited?_of_mem_rules h, Mark.inherited?_of_mem_rules h]
  change (rule.required && !(shared.find? rule.name).isSome && _ && true)
    = (rule.required && true && _ && (shared.find? rule.name).isNone)
  rw [Option.not_isSome, Bool.and_true, Bool.and_true, Bool.and_right_comm]
  rfl

theorem settled_empty_eq {rule : AestheticRule num} (hrule : rule ∈ layer.mark.rules)
    {property : Option (Cell num)}
    (hfree : forall s, shared.find? rule.name = some s -> property = none) :
    rule.settled Table.empty (shared.find? rule.name, property)
      = rule.settled shared (none, property) := by
  unfold AestheticRule.settled AestheticRule.replaced?
  rw [Mark.inherited?_of_mem_rules hrule, Mark.inherited?_of_mem_rules hrule]
  cases hname : shared.find? rule.name with
  | none => rfl
  | some s =>
      cases hfree s hname
      rfl

theorem Defers.foldl_filled_started (h : layer.Defers m) (hshared : m.evaluate frame = .ok shared) :
    layer.mark.rules.foldl (ResolvedLayer.filled Table.empty) (layer.started shared)
      = layer.mark.rules.foldl (ResolvedLayer.filled shared) (layer.started Table.empty) := by
  have hrules : ((layer.mark.rules : List (AestheticRule num)).map AestheticRule.name).Nodup :=
    layer.mark.nodup_names_rules
  apply ResolvedLayer.ext_valuesAt
  · rw [ResolvedLayer.mark_foldl_filled, ResolvedLayer.mark_foldl_filled]
    rfl
  · intro name
    rw [ResolvedLayer.valuesAt_foldl_filled hrules, ResolvedLayer.valuesAt_foldl_filled hrules]
    change (layer.mark.rule? name).elim (shared.find? name, layer.properties.find? name)
        (AestheticRule.settled Table.empty · (shared.find? name, layer.properties.find? name))
      = (layer.mark.rule? name).elim (none, layer.properties.find? name)
        (AestheticRule.settled shared · (none, layer.properties.find? name))
    cases hrule : (layer.mark.rule? name : Option (AestheticRule num)) with
    | none => rw [h.find?_eq_none hshared hrule, Option.elim_none, Option.elim_none]
    | some rule =>
        rcases Mark.rule?_eq_some_iff.mp hrule with ⟨hmem, rfl⟩
        exact settled_empty_eq hmem fun s hname => h.find?_properties_eq_none hshared hname

theorem Defers.resolve_withMapping (h : layer.Defers m) (hshared : m.evaluate frame = .ok shared) :
    (layer.withMapping m).resolve frame Table.empty = layer.resolve frame shared := by
  rw [resolve_of_ownSeries_eq_ok (h.ownSeries_eq frame),
    resolve_of_ownSeries_eq_ok ((h.ownSeries_withMapping frame).trans hshared),
    ← h.foldl_filled_started hshared,
    ← List.find?_congr fun rule hrule => lacks_started_comm hrule]
  rfl

end Layer

/-!
## Plots
-/

namespace PlotPart

def withMapping (m : Mapping num) : PlotPart num -> PlotPart num
  | layer l => layer (l.withMapping m)
  | part => part

end PlotPart

namespace Plot

def shareMapping (m : Mapping num) (plot : Plot num) : Plot num :=
  { plot with mapping := some m }

def handOutMapping (m : Mapping num) (plot : Plot num) : Plot num :=
  { plot with layers := plot.layers.map (Layer.withMapping m) }

variable {m : Mapping num} {plot : Plot num} {part : PlotPart num}
  {before after : List (PlotPart num)}

theorem add_shareMapping (h : part.mapping? = none) (m : Mapping num) (plot : Plot num) :
    (plot.shareMapping m).add part = shareMapping m <$> plot.add part := by
  cases part with
  | mapping n => cases h
  | scales ds =>
      rw [add_scales, add_scales, Functor.map_map]
      rfl
  | layer l => rfl

theorem add_withMapping (m : Mapping num) (plot : Plot num) (part : PlotPart num) :
    (plot.handOutMapping m).add (part.withMapping m) = handOutMapping m <$> plot.add part := by
  cases part with
  | mapping n =>
      change (plot.handOutMapping m).add (.mapping n) = _
      rw [add_mapping, add_mapping, Functor.map_map]
      rfl
  | scales ds =>
      change (plot.handOutMapping m).add (.scales ds) = _
      rw [add_scales, add_scales, Functor.map_map]
      rfl
  | layer l =>
      change pure _ = pure _
      rw [handOutMapping, handOutMapping, List.map_append]
      rfl

theorem ofParts_map_withMapping (m : Mapping num) (parts : List (PlotPart num)) :
    ofParts (parts.map (PlotPart.withMapping m)) = handOutMapping m <$> ofParts parts := by
  unfold ofParts
  rw [List.foldlM_map]
  exact foldlM_of_commutes (handOutMapping m) (fun part _ plot => add_withMapping m plot part) empty

theorem ofParts_insert_mapping (h : PlotPart.mappings (before ++ after) = []) (m : Mapping num) :
    ofParts (before ++ .mapping m :: after) = shareMapping m <$> ofParts (before ++ after) := by
  have hparts : forall part, part ∈ before ++ after -> part.mapping? = none :=
    List.filterMap_eq_nil_iff.mp h
  have hbefore : PlotPart.mappings before = [] :=
    List.filterMap_eq_nil_iff.mpr fun part hpart => hparts part (List.mem_append_left after hpart)
  unfold ofParts
  rw [List.foldlM_append, List.foldlM_append]
  change ofParts before >>= _ = shareMapping m <$> (ofParts before >>= _)
  cases hplot : ofParts before with
  | error e => rfl
  | ok plot =>
      have hnone := (assembles_of_ofParts_eq_ok hplot).2.mapping.mpr hbefore
      have hadd : plot.add (.mapping m) = .ok (plot.shareMapping m) := by
        unfold add
        rw [hnone]
        rfl
      change (plot.add (.mapping m) >>= fun next => after.foldlM add next) = _
      rw [hadd]
      exact foldlM_of_commutes (shareMapping m)
        (fun part hpart next =>
          add_shareMapping (hparts part (List.mem_append_right before hpart)) m next) plot

theorem sharedSeries_of_mapping_eq_none (h : plot.mapping = none) (frame : Frame num) :
    plot.sharedSeries frame = pure Table.empty := by
  unfold sharedSeries
  rw [h]

section Compilation

variable [Scalar num]

theorem resolveLayers_shareMapping (hmapping : plot.mapping = none) (hframe : plot.frame = none)
    (hlayers : plot.layers ≠ []) (hdefers : forall l, l ∈ plot.layers -> l.Defers m)
    (frame : Frame num) :
    (plot.shareMapping m).resolveLayers frame = (plot.handOutMapping m).resolveLayers frame := by
  have hshare : (plot.shareMapping m).resolveLayers frame
      = m.evaluate frame >>= fun shared => plot.layers.mapM fun l => l.resolve frame shared := by
    unfold resolveLayers
    change (m.evaluate (plot.frame.getD frame) >>= fun shared =>
      plot.layers.mapM fun l => l.resolve (plot.frame.getD frame) shared) = _
    rw [hframe, Option.getD_none]
  have hhandOut : (plot.handOutMapping m).resolveLayers frame
      = plot.layers.mapM fun l => (l.withMapping m).resolve frame Table.empty := by
    have hnone : (plot.handOutMapping m).sharedSeries frame = pure Table.empty :=
      sharedSeries_of_mapping_eq_none hmapping frame
    unfold resolveLayers
    change ((plot.handOutMapping m).sharedSeries (plot.frame.getD frame) >>= fun shared =>
      (plot.layers.map (Layer.withMapping m)).mapM fun l =>
        l.resolve (plot.frame.getD frame) shared) = _
    rw [hframe, Option.getD_none, hnone, pure_bind, List.mapM_map]
    rfl
  rw [hshare, hhandOut]
  cases hshared : m.evaluate frame with
  | error e =>
      cases hplot : plot.layers with
      | nil => exact absurd hplot hlayers
      | cons l rest =>
          have hl := hdefers l (hplot ▸ List.mem_cons_self)
          have hfault := Layer.resolve_of_ownSeries_eq_error
            ((hl.ownSeries_withMapping frame).trans hshared) Table.empty
          rw [List.mapM_cons, hfault]
          rfl
  | ok shared =>
      apply mapM_congr
      intro l hl
      exact ((hdefers l hl).resolve_withMapping hshared).symm

end Compilation

end Plot

namespace CompiledPlot

variable [Scalar num] [NumberText num] {m : Mapping num} {before after : List (PlotPart num)}

/-- A mapping in any place among parts without another one makes the same plot as the mapping in
each of the layers, with the same scales or the same error, if there are layers and all of them
defer to it. -/
theorem ofParts_mapping_eq_ofParts_withMapping
    (hmappings : PlotPart.mappings (before ++ after) = [])
    (hlayers : PlotPart.layers (before ++ after) ≠ [])
    (hdefers : forall l, l ∈ PlotPart.layers (before ++ after) -> l.Defers m)
    (frame : Frame num) (settings : Settings num) :
    ofParts frame (before ++ .mapping m :: after) settings
      = ofParts frame ((before ++ after).map (PlotPart.withMapping m)) settings := by
  unfold ofParts
  rw [Plot.ofParts_insert_mapping hmappings, Plot.ofParts_map_withMapping]
  cases hplot : Plot.ofParts (before ++ after) with
  | error e => rfl
  | ok plot =>
      have hassembles := (Plot.assembles_of_ofParts_eq_ok hplot).2
      have hresolve := Plot.resolveLayers_shareMapping (hassembles.mapping.mpr hmappings)
        hassembles.frame (hassembles.layers ▸ hlayers) (hassembles.layers ▸ hdefers) frame
      change (plot.shareMapping m).compile frame settings
        = (plot.handOutMapping m).compile frame settings
      rw [Plot.compile_eq, Plot.compile_eq, hresolve]
      rfl

/-!
## Points and a line that share a mapping
-/

def sharingParts : List (PlotPart Exact) :=
  [.scale "y" (.continuous .empty),
    .layer { mark := .point, frame := none, mapping := none, properties := Table.empty },
    .layer { mark := .line, frame := none, mapping := none,
             properties := Table.singleton "colour" (.text "red") }]

def mixedMapping : Mapping Exact :=
  Table.ofList [("x", .column (.name "x")), ("y", .column (.name "y")),
    ("alpha", .constant (.number (.value (1 / 2)))), ("size", .constant (.flag true))]

def threeRows : Frame Exact :=
  Frame.ofXY [.value 0, .value 1, .value 2] [.value 5, .value 7, .value 6]

theorem defers_mixedMapping {l : Layer Exact} (h : l ∈ PlotPart.layers sharingParts) :
    l.Defers mixedMapping := by
  change l ∈ [_, _] at h
  rw [List.mem_pair] at h
  rcases h with rfl | rfl
  · refine Layer.defers_of_forall_mem_names rfl rfl ?_
    decide +kernel
  · refine Layer.defers_of_forall_mem_names rfl rfl ?_
    decide +kernel

theorem ofParts_mapping_eq_ofParts_withMapping_mixed :
    (ofParts threeRows ([] ++ .mapping mixedMapping :: sharingParts) Settings.standard).isOk
        = true ∧
      ofParts threeRows ([] ++ .mapping mixedMapping :: sharingParts) Settings.standard
        = ofParts threeRows (([] ++ sharingParts).map (PlotPart.withMapping mixedMapping))
            Settings.standard := by
  refine ⟨by decide +kernel, ?_⟩
  have hlayers : PlotPart.layers ([] ++ sharingParts) ≠ [] := List.cons_ne_nil _ _
  exact ofParts_mapping_eq_ofParts_withMapping rfl hlayers (fun l hl => defers_mixedMapping hl)
    threeRows Settings.standard

end CompiledPlot
end LayeredPlot
