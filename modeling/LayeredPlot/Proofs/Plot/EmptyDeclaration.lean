import LayeredPlot.Proofs.Plot.Containment
import LayeredPlot.Proofs.Scale.Pooling

/-!
# Declarations that leave everything open

The scale of an aesthetic without a declaration unites the limits of the layers.  With
a declaration that leaves everything open, its limits are those of all numbers of the
layers together.  Without margins both ways lead to the same plot, unless one layer
carries infinite numbers and another one does not.
-/

namespace LayeredPlot

open Exact

variable {num : Type}

namespace ScaleDeclaration

def ofLimits (l : Limits num) : ScaleDeclaration num :=
  .continuous { limits := some l, breaks := none, labels := none }

theorem resolve_ofLimits_ne_ok {l : Limits Exact} (h : forall q, l.low ≠ value q)
    (settings : Settings Exact) (s : Scale Exact) :
    (ofLimits l).resolve none settings ≠ .ok s := by
  intro hs
  rcases resolve_eq_ok_iff.mp hs with ⟨c, limits, hc, hstart, hchoose, _⟩
  cases hc
  cases (ContinuousDeclaration.startLimits_of_limits_eq_some rfl).symm.trans hstart
  rcases ContinuousDeclaration.exists_window_of_chooseBreaks_eq_ok rfl hchoose with
    ⟨⟨a, b, _, heq⟩, _⟩
  rw [heq] at h
  exact h a rfl

end ScaleDeclaration

/-!
## Adding a declaration
-/

namespace Plot

def declare (plot : Plot num) (name : String) (d : ScaleDeclaration num) : Plot num :=
  { plot with scales := some ((plot.scales.getD Table.empty).insert name d) }

theorem add_scale_eq_declare {plot : Plot num} {name : String}
    (h : (plot.scales.getD Table.empty).find? name = none) (d : ScaleDeclaration num) :
    plot.add (.scale name d) = .ok (plot.declare name d) := by
  have hmerge : (plot.scales.getD Table.empty).merge (Table.singleton name d)
      = .ok ((plot.scales.getD Table.empty).insert name d) := by
    change ScaleDeclarations.mergeEntry _ _ (name, d) >>= pure = _
    unfold ScaleDeclarations.mergeEntry
    rw [h]
    rfl
  unfold PlotPart.scale
  rw [add_scales, hmerge]
  rfl

theorem ofParts_insert_scale_eq_ok_iff {before after : List (PlotPart num)} {name : String}
    (h : PlotPart.declarationsOf (before ++ after) name = []) (d : ScaleDeclaration num)
    (declared : Plot num) :
    ofParts (before ++ .scale name d :: after) = .ok declared ↔
      exists plot, ofParts (before ++ after) = .ok plot ∧ plot.declare name d = declared := by
  have hperm : (before ++ .scale name d :: after).Perm ((before ++ after) ++ [.scale name d]) := by
    have hswap : ([PlotPart.scale name d] ++ after).Perm (after ++ [PlotPart.scale name d]) :=
      List.perm_append_comm
    rw [List.append_assoc]
    exact hswap.append_left before
  have hlayers : PlotPart.layers ((before ++ after) ++ [.scale name d])
      = PlotPart.layers (before ++ .scale name d :: after) := by
    have hpart : (PlotPart.scale name d).layer? = none := rfl
    simp [PlotPart.layers, hpart]
  have hlast : ofParts (before ++ .scale name d :: after) = .ok declared ↔
      ofParts ((before ++ after) ++ [.scale name d]) = .ok declared :=
    ⟨ofParts_eq_ok_of_perm hperm hlayers, ofParts_eq_ok_of_perm hperm.symm hlayers.symm⟩
  rw [hlast, ofParts_concat, bind_eq_ok]
  apply exists_congr
  intro plot
  apply and_congr_right
  intro hplot
  have hnone : (plot.scales.getD Table.empty).find? name = none := by
    rw [(assembles_of_ofParts_eq_ok hplot).2.declarations, h]
    rfl
  rw [add_scale_eq_declare hnone]
  exact pure_eq_ok

section Scales

variable [Scalar num] [NumberText num] {plot : Plot num} {name : String}
  {d : ScaleDeclaration num} {frame : Frame num} {settings : Settings num}
  {layers : List (ResolvedLayer num)} {compiled : CompiledPlot num}

theorem find?_scales_of_compile_declare_eq_ok
    (h : (plot.declare name d).compile frame settings = .ok compiled)
    (hlayers : plot.resolveLayers frame = .ok layers) (hcarried : carriedUnder layers name ≠ []) :
    exists s, scaleOf (some d) name (carriedUnder layers name) settings = .ok s ∧
      compiled.scales.find? name = some s := by
  rcases compile_eq_ok_iff_resolveLayers.mp h with ⟨hcompiled, hscales⟩
  cases hlayers.symm.trans hcompiled
  have hdeclared : ((plot.declare name d).scales.getD Table.empty).find? name = some d :=
    Table.find?_insert_self (plot.scales.getD Table.empty) name d
  have hname := resolveScales_eq_ok_iff.mp hscales name
  rw [find?_carried, if_neg hcarried, hdeclared] at hname
  exact hname

theorem compile_declare_eq_ok_iff
    (hnone : (plot.scales.getD Table.empty).find? name = none)
    (hlayers : plot.resolveLayers frame = .ok layers)
    (hscale : forall s, scaleOf (some d) name (carriedUnder layers name) settings = .ok s ↔
      scaleOf none name (carriedUnder layers name) settings = .ok s)
    (compiled : CompiledPlot num) :
    (plot.declare name d).compile frame settings = .ok compiled ↔
      plot.compile frame settings = .ok compiled := by
  have hsame : (plot.declare name d).resolveLayers frame = plot.resolveLayers frame := rfl
  rw [compile_eq_ok_iff_resolveLayers, compile_eq_ok_iff_resolveLayers, hsame]
  apply and_congr_right
  intro hcompiled
  cases hlayers.symm.trans hcompiled
  rw [resolveScales_eq_ok_iff, resolveScales_eq_ok_iff]
  apply forall_congr'
  intro other
  rw [find?_carried]
  by_cases hnil : carriedUnder compiled.layers other = []
  · rw [if_pos hnil]
  · rw [if_neg hnil]
    apply exists_congr
    intro s
    apply and_congr_left
    intro _
    have hdeclared : ((plot.declare name d).scales.getD Table.empty).find? other
        = if other = name then some d else (plot.scales.getD Table.empty).find? other :=
      Table.find?_insert (plot.scales.getD Table.empty) name other d
    rw [hdeclared]
    by_cases hname : other = name
    · subst hname
      rw [if_pos rfl, hnone]
      exact hscale s
    · rw [if_neg hname]

/-!
## The scale of an aesthetic with numbers
-/

variable {all : List (Series num)}

theorem scaleOf_none_eq (hnumbers : forall s, s ∈ all -> s.type = .number) (name : String)
    (settings : Settings num) :
    scaleOf none name all settings
      = (ScaleDeclaration.ofLimits (limitsAround settings.inferredMargin all)).resolve none
          settings := by
  unfold scaleOf
  rw [inferDeclaration_of_numbers hnumbers name settings]
  rfl

theorem scaleOf_empty_eq (hnumbers : forall s, s ∈ all -> s.type = .number) (name : String)
    (settings : Settings num) :
    scaleOf (some (.continuous .empty)) name all settings
      = (ScaleDeclaration.ofLimits (Limits.around settings.margin
          (all.flatMap fun s => s.numbers?.getD []))).resolve none settings := by
  have hconcat := Series.numbers?_concat_eq_some_iff.mpr ⟨hnumbers, rfl⟩
  have hstart : ContinuousDeclaration.empty.startLimits (some (Series.concat all)) settings
      = .ok (Limits.around settings.margin (all.flatMap fun s => s.numbers?.getD [])) := by
    unfold ContinuousDeclaration.startLimits
    simp only [ContinuousDeclaration.empty, hconcat]
    rfl
  change (_ >>= _) = _
  rw [hstart]
  rfl

end Scales

end Plot

namespace Plot

variable {all : List (Series Exact)} {settings : Settings Exact} {name : String}

theorem flatten_filterMap_numbers? (all : List (Series Exact)) :
    (all.filterMap Series.numbers?).flatten = numbersOf all := by
  induction all with
  | nil => rfl
  | cons s rest ih =>
      change _ = s.numbers?.getD [] ++ numbersOf rest
      rw [← ih]
      cases s <;> rfl

theorem areFinite_of_mem_numbersOf {xs : List Exact}
    (hfinite : Limits.AreFinite (numbersOf all)) (hxs : xs ∈ all.filterMap Series.numbers?) :
    Limits.AreFinite xs := by
  intro x hx
  apply hfinite x
  rw [← flatten_filterMap_numbers?]
  exact List.mem_flatten.mpr ⟨xs, hxs, hx⟩

/-- Some series have infinite numbers, and others have numbers of which none is infinite. -/
def MixesInfinities (all : List (Series Exact)) : Prop :=
  ¬ Limits.AreFinite (numbersOf all) ∧
    exists s xs, s ∈ all ∧ s.numbers? = some xs ∧ xs ≠ [] ∧ Limits.AreFinite xs

theorem limitsAround_zero_eq_around (hfinite : Limits.AreFinite (numbersOf all))
    (hne : numbersOf all ≠ []) :
    limitsAround (value 0) all = Limits.around (value 0) (numbersOf all) := by
  have hpooled := Limits.foldl_union_around_eq_around
    (fun xs hxs => areFinite_of_mem_numbersOf hfinite hxs)
    (by rwa [flatten_filterMap_numbers?])
  rw [flatten_filterMap_numbers?] at hpooled
  exact hpooled

theorem limitsAround_zero_eq_nothing
    (hdefined : forall x, x ∈ numbersOf all -> Scalar.IsDefined x)
    (hinfinite : forall s xs, s ∈ all -> s.numbers? = some xs -> xs ≠ [] ->
      ¬ Limits.AreFinite xs) :
    limitsAround (value 0) all = Limits.nothing := by
  apply Limits.foldl_union_around_eq_nothing
  · intro xs hxs x hx
    apply hdefined x
    rw [← flatten_filterMap_numbers?]
    exact List.mem_flatten.mpr ⟨xs, hxs, hx⟩
  · intro xs hxs hne
    rcases List.mem_filterMap.mp hxs with ⟨s, hs, hnumbers⟩
    exact hinfinite s xs hs hnumbers hne

theorem scaleOf_empty_ne_ok (hmargin : settings.margin = value 0)
    (hnumbers : forall s, s ∈ all -> s.type = .number)
    (hdefined : forall x, x ∈ numbersOf all -> Scalar.IsDefined x)
    (h : numbersOf all = [] ∨ ¬ Limits.AreFinite (numbersOf all)) (scale : Scale Exact) :
    scaleOf (some (.continuous .empty)) name all settings ≠ .ok scale := by
  have hundefined : Limits.around (value 0) (numbersOf all) = Limits.undefined := by
    rcases h with hnil | hinfinite
    · rw [hnil]
      rfl
    · exact Limits.around_zero_eq_undefined hdefined hinfinite
  rw [scaleOf_empty_eq hnumbers, hmargin]
  apply ScaleDeclaration.resolve_ofLimits_ne_ok
  intro q
  change (Limits.around (value 0) (numbersOf all)).low ≠ value q
  rw [hundefined]
  exact Exact.noConfusion

theorem scaleOf_none_ne_ok (hinferred : settings.inferredMargin = value 0)
    (hnumbers : forall s, s ∈ all -> s.type = .number)
    (hdefined : forall x, x ∈ numbersOf all -> Scalar.IsDefined x)
    (hinfinite : forall s xs, s ∈ all -> s.numbers? = some xs -> xs ≠ [] ->
      ¬ Limits.AreFinite xs) (scale : Scale Exact) :
    scaleOf none name all settings ≠ .ok scale := by
  rw [scaleOf_none_eq hnumbers, hinferred, limitsAround_zero_eq_nothing hdefined hinfinite]
  apply ScaleDeclaration.resolve_ofLimits_ne_ok
  intro q
  exact Exact.noConfusion

theorem scaleOf_empty_eq_ok_iff (hmargin : settings.margin = value 0)
    (hinferred : settings.inferredMargin = value 0)
    (hnumbers : forall s, s ∈ all -> s.type = .number)
    (hdefined : forall x, x ∈ numbersOf all -> Scalar.IsDefined x)
    (hmixes : ¬ MixesInfinities all) (scale : Scale Exact) :
    scaleOf (some (.continuous .empty)) name all settings = .ok scale ↔
      scaleOf none name all settings = .ok scale := by
  by_cases hpooled : Limits.AreFinite (numbersOf all) ∧ numbersOf all ≠ []
  · rcases hpooled with ⟨hfinite, hne⟩
    rw [scaleOf_empty_eq hnumbers, scaleOf_none_eq hnumbers, hmargin, hinferred,
      limitsAround_zero_eq_around hfinite hne]
    exact Iff.rfl
  · -- No series has numbers of which none is infinite, so neither way leads to a scale.
    have hor : numbersOf all = [] ∨ ¬ Limits.AreFinite (numbersOf all) := by
      by_cases hnil : numbersOf all = []
      · exact Or.inl hnil
      · exact Or.inr fun hfinite => hpooled ⟨hfinite, hnil⟩
    have hinfinite : forall s xs, s ∈ all -> s.numbers? = some xs -> xs ≠ [] ->
        ¬ Limits.AreFinite xs := by
      intro s xs hs hxs hne hfinite
      rcases hor with hnil | hinfinite
      · rcases List.exists_mem_of_ne_nil xs hne with ⟨x, hx⟩
        have hmem := mem_numbersOf_iff.mpr ⟨s, xs, hs, hxs, hx⟩
        rw [hnil] at hmem
        cases hmem
      · exact hmixes ⟨hinfinite, s, xs, hs, hxs, hne, hfinite⟩
    exact iff_of_false (scaleOf_empty_ne_ok hmargin hnumbers hdefined hor scale)
      (scaleOf_none_ne_ok hinferred hnumbers hdefined hinfinite scale)

end Plot

/-!
## Compiled plots
-/

namespace CompiledPlot

section Layers

variable [Scalar num] [NumberText num] {frame : Frame num} {before after : List (PlotPart num)}
  {settings : Settings num} {name : String} {d : ScaleDeclaration num}
  {compiled : CompiledPlot num}

theorem ofParts_insert_scale_eq_ok_iff
    (hundeclared : PlotPart.declarationsOf (before ++ after) name = []) :
    ofParts frame (before ++ .scale name d :: after) settings = .ok compiled ↔
      exists plot, Plot.ofParts (before ++ after) = .ok plot ∧
        (plot.declare name d).compile frame settings = .ok compiled := by
  unfold ofParts
  rw [bind_eq_ok]
  simp only [Plot.ofParts_insert_scale_eq_ok_iff hundeclared]
  constructor
  · intro h
    rcases h with ⟨_, ⟨plot, hplot, rfl⟩, hcompile⟩
    exact ⟨plot, hplot, hcompile⟩
  · intro h
    rcases h with ⟨plot, hplot, hcompile⟩
    exact ⟨_, ⟨plot, hplot, rfl⟩, hcompile⟩

theorem layersOf_of_ofParts_insert_scale_eq_ok
    (hundeclared : PlotPart.declarationsOf (before ++ after) name = [])
    (h : ofParts frame (before ++ .scale name d :: after) settings = .ok compiled) :
    layersOf frame (before ++ after) = .ok compiled.layers := by
  rcases (ofParts_insert_scale_eq_ok_iff hundeclared).mp h with ⟨plot, hplot, hcompile⟩
  exact bind_eq_ok.mpr ⟨plot, hplot, (Plot.compile_eq_ok_iff_resolveLayers.mp hcompile).1⟩

theorem ofParts_insert_scale_eq_ok_iff_of_scaleOf
    (hundeclared : PlotPart.declarationsOf (before ++ after) name = [])
    (hscale : forall s,
      Plot.scaleOf (some d) name (carriedOf frame (before ++ after) name) settings = .ok s ↔
        Plot.scaleOf none name (carriedOf frame (before ++ after) name) settings = .ok s)
    (compiled : CompiledPlot num) :
    ofParts frame (before ++ .scale name d :: after) settings = .ok compiled ↔
      ofParts frame (before ++ after) settings = .ok compiled := by
  cases hlayers : layersOf frame (before ++ after) with
  | error e =>
      refine iff_of_false ?_ ?_
      · intro h
        have hok := layersOf_of_ofParts_insert_scale_eq_ok hundeclared h
        rw [hlayers] at hok
        cases hok
      · intro h
        have hok := layersOf_of_ofParts_eq_ok h
        rw [hlayers] at hok
        cases hok
  | ok layers =>
      rw [carriedOf, hlayers] at hscale
      rw [ofParts_insert_scale_eq_ok_iff hundeclared, ofParts, bind_eq_ok]
      apply exists_congr
      intro plot
      apply and_congr_right
      intro hplot
      have hnone : (plot.scales.getD Table.empty).find? name = none := by
        rw [(Plot.assembles_of_ofParts_eq_ok hplot).2.declarations, hundeclared]
        rfl
      have hresolved : plot.resolveLayers frame = .ok layers := by
        rw [layersOf, hplot] at hlayers
        exact hlayers
      exact Plot.compile_declare_eq_ok_iff hnone hresolved hscale compiled

theorem exists_scaleOf_of_ofParts_insert_scale_eq_ok
    (hundeclared : PlotPart.declarationsOf (before ++ after) name = [])
    (hcarried : carriedOf frame (before ++ after) name ≠ [])
    (h : ofParts frame (before ++ .scale name d :: after) settings = .ok compiled) :
    exists s, Plot.scaleOf (some d) name (carriedOf frame (before ++ after) name) settings
      = .ok s := by
  have hlayers := layersOf_of_ofParts_insert_scale_eq_ok hundeclared h
  rw [carriedOf, hlayers] at hcarried ⊢
  rcases (ofParts_insert_scale_eq_ok_iff hundeclared).mp h with ⟨plot, hplot, hcompile⟩
  rw [layersOf, hplot] at hlayers
  rcases Plot.find?_scales_of_compile_declare_eq_ok hcompile hlayers hcarried with ⟨s, hs, _⟩
  exact ⟨s, hs⟩

end Layers

variable {frame : Frame Exact} {before after : List (PlotPart Exact)} {settings : Settings Exact}
  {name : String}

/-- Without margins, a declaration that leaves everything open makes no difference to a plot that
has none for the aesthetic, if all layers carry numbers for it and no series with infinite numbers
meets one without.  Where they meet, the plot does not compile with the declaration. -/
theorem ofParts_insert_empty_scale_eq_ok_iff (hmargin : settings.margin = value 0)
    (hinferred : settings.inferredMargin = value 0)
    (hundeclared : PlotPart.declarationsOf (before ++ after) name = [])
    (hnumbers : forall s, s ∈ carriedOf frame (before ++ after) name -> s.type = .number)
    (hdefined : forall x, x ∈ Plot.numbersOf (carriedOf frame (before ++ after) name) ->
      Scalar.IsDefined x) :
    (¬ Plot.MixesInfinities (carriedOf frame (before ++ after) name) -> forall compiled,
      ofParts frame (before ++ .scale name (.continuous .empty) :: after) settings = .ok compiled ↔
        ofParts frame (before ++ after) settings = .ok compiled) ∧
    (Plot.MixesInfinities (carriedOf frame (before ++ after) name) -> forall compiled,
      ofParts frame (before ++ .scale name (.continuous .empty) :: after) settings
        ≠ .ok compiled) := by
  constructor
  · intro hmixes
    apply ofParts_insert_scale_eq_ok_iff_of_scaleOf hundeclared
    exact Plot.scaleOf_empty_eq_ok_iff hmargin hinferred hnumbers hdefined hmixes
  · intro hmixes compiled hcompiled
    have hcarried : carriedOf frame (before ++ after) name ≠ [] := by
      rcases hmixes.2 with ⟨s, xs, hs, _⟩
      exact List.ne_nil_of_mem hs
    rcases exists_scaleOf_of_ofParts_insert_scale_eq_ok hundeclared hcarried hcompiled with
      ⟨scale, hscale⟩
    exact Plot.scaleOf_empty_ne_ok hmargin hnumbers hdefined (Or.inr hmixes.1) scale hscale

/-!
## Two layers with positions of their own
-/

def overlaid (xs : List Exact) : List (PlotPart Exact) :=
  [.mapping (Table.ofList [("x", .column (.name "x")), ("y", .column (.name "y"))]),
    .layer { mark := .point, frame := none, mapping := none, properties := Table.empty },
    .layer { mark := .point, frame := none,
             mapping := some (Table.singleton "x" (.series (.numbers xs))),
             properties := Table.empty }]

def cornerFrame : Frame Exact :=
  Frame.ofXY [.value 0, .value 10] [.value 0, .value 20]

def marginless : Settings Exact :=
  { Settings.standard with margin := .value 0, inferredMargin := .value 0 }

theorem carriedOf_overlaid {xs : List Exact}
    (hxs : xs ∈ [[.value 3, .value 40], [.infinite, .infinite]]) :
    carriedOf cornerFrame (overlaid xs) "x" = [.numbers [.value 0, .value 10], .numbers xs] := by
  have hrun : forall xs, xs ∈ [[.value 3, .value 40], [.infinite, .infinite]] ->
      carriedOf cornerFrame (overlaid xs) "x"
        = [.numbers [.value 0, .value 10], .numbers xs] := by
    decide +kernel
  exact hrun xs hxs

theorem ofParts_insert_empty_scale_eq_ok_iff_overlaid :
    exists compiled,
      ofParts cornerFrame (overlaid [.value 3, .value 40]) marginless = .ok compiled ∧
      ofParts cornerFrame (.scale "x" (.continuous .empty) :: overlaid [.value 3, .value 40])
        marginless = .ok compiled := by
  have hrun : (ofParts cornerFrame (overlaid [.value 3, .value 40]) marginless).isOk = true := by
    decide +kernel
  have hcarried : carriedOf cornerFrame ([] ++ overlaid [.value 3, .value 40]) "x" = _ :=
    carriedOf_overlaid List.mem_cons_self
  have hmargin : marginless.margin = value 0 := rfl
  have hundeclared : PlotPart.declarationsOf ([] ++ overlaid [.value 3, .value 40]) "x" = [] := rfl
  have hboth := ofParts_insert_empty_scale_eq_ok_iff hmargin rfl hundeclared
    (by rw [hcarried]; decide) (by rw [hcarried]; decide +kernel)
  rw [hcarried] at hboth
  cases hcompiled : ofParts cornerFrame (overlaid [.value 3, .value 40]) marginless with
  | error e =>
      rw [hcompiled] at hrun
      cases hrun
  | ok compiled =>
      have hfinite : Limits.AreFinite (Plot.numbersOf
          [.numbers [.value 0, .value 10], .numbers [.value 3, .value 40]]) := by
        decide +kernel
      exact ⟨compiled, rfl, (hboth.1 (fun h => h.1 hfinite) compiled).mpr hcompiled⟩

/-- Infinite positions on top of finite ones do not get in the way of a scale that is not declared,
but they leave a declared one without limits. -/
theorem not_forall_ofParts_insert_empty_scale_eq_ok_iff :
    ¬ forall (frame : Frame Exact) (before after : List (PlotPart Exact))
        (settings : Settings Exact) (name : String),
      settings.margin = value 0 -> settings.inferredMargin = value 0 ->
      PlotPart.declarationsOf (before ++ after) name = [] ->
      (forall s, s ∈ carriedOf frame (before ++ after) name -> s.type = .number) ->
      (forall x, x ∈ Plot.numbersOf (carriedOf frame (before ++ after) name) ->
        Scalar.IsDefined x) ->
      Plot.numbersOf (carriedOf frame (before ++ after) name) ≠ [] ->
      forall compiled,
        ofParts frame (before ++ .scale name (.continuous .empty) :: after) settings
            = .ok compiled ↔
          ofParts frame (before ++ after) settings = .ok compiled := by
  intro hall
  have hrun : (ofParts cornerFrame (overlaid [.infinite, .infinite]) marginless).isOk = true ∧
      (ofParts cornerFrame (.scale "x" (.continuous .empty) :: overlaid [.infinite, .infinite])
        marginless).isOk = false := by
    decide +kernel
  have hcarried : carriedOf cornerFrame ([] ++ overlaid [.infinite, .infinite]) "x" = _ :=
    carriedOf_overlaid (List.mem_cons_of_mem _ List.mem_cons_self)
  have hboth := hall cornerFrame [] (overlaid [.infinite, .infinite]) marginless "x" rfl rfl rfl
    (by rw [hcarried]; decide) (by rw [hcarried]; decide +kernel)
    (by rw [hcarried]; exact List.cons_ne_nil _ _)
  cases hcompiled : ofParts cornerFrame (overlaid [.infinite, .infinite]) marginless with
  | error e =>
      rw [hcompiled] at hrun
      cases hrun.1
  | ok compiled =>
      have hdeclared := (hboth compiled).mpr hcompiled
      rw [List.nil_append] at hdeclared
      rw [hdeclared] at hrun
      cases hrun.2

end CompiledPlot
end LayeredPlot
