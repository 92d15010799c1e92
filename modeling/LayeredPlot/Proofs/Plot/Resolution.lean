import LayeredPlot.Proofs.Plot.Assembly
import LayeredPlot.Proofs.Scale.Basic

/-!
# Resolving the scales of a plot

Every aesthetic that a layer carries gets a scale.  It comes from the united
declaration of the aesthetic if there is one, and is inferred from the values of
all layers otherwise.
-/

namespace LayeredPlot

variable {num : Type}

namespace Series

/-!
## Several series
-/

theorem numbers?_eq_none_iff {s : Series num} : s.numbers? = none ↔ s.type ≠ .number := by
  cases s <;> simp [numbers?, type]

theorem exists_numbers?_eq_some_iff {s : Series num} :
    (exists xs, s.numbers? = some xs) ↔ s.type = .number := by
  cases s <;> simp [numbers?, type]

theorem isNone_numbers?_iff {s : Series num} : s.numbers?.isNone = true ↔ s.type ≠ .number := by
  rw [Option.isNone_iff_eq_none, numbers?_eq_none_iff]

theorem agree_of_forall_type_eq {all : List (Series num)} {type : CellType}
    (h : forall s, s ∈ all -> s.type = type) : agree all = true := by
  apply List.all_eq_true.mpr
  intro s hs
  cases all with
  | nil => cases hs
  | cons first rest => simp [h s hs, h first List.mem_cons_self]

theorem numbers?_concat_eq_some_iff {all : List (Series num)} {xs : List num} :
    (concat all).numbers? = some xs ↔
      (forall s, s ∈ all -> s.type = .number) ∧
        all.flatMap (fun s => s.numbers?.getD []) = xs := by
  unfold concat
  split
  next s hs =>
      have hnone := List.find?_some hs
      constructor
      · intro h
        rw [h] at hnone
        cases hnone
      · intro h
        exact absurd (h.1 s (List.mem_of_find?_eq_some hs)) (isNone_numbers?_iff.mp hnone)
  next hfind =>
      have hall : forall s, s ∈ all -> s.type = .number := by
        intro s hs
        exact not_not.mp fun hne => List.find?_eq_none.mp hfind s hs (isNone_numbers?_iff.mpr hne)
      constructor
      · intro h
        exact ⟨hall, Option.some.inj h⟩
      · intro h
        exact congrArg some h.2

end Series

namespace Plot

/-!
## What layers carry
-/

section Carried

variable {layers : List (ResolvedLayer num)} {name : String}

theorem mem_carriedUnder_iff {s : Series num} :
    s ∈ carriedUnder layers name ↔ exists l, l ∈ layers ∧ l.aesthetics.find? name = some s := by
  unfold carriedUnder
  rw [List.mem_filterMap]

theorem carriedUnder_perm {others : List (ResolvedLayer num)} (h : layers.Perm others)
    (name : String) : (carriedUnder layers name).Perm (carriedUnder others name) :=
  h.filterMap _

theorem find?_carried (layers : List (ResolvedLayer num)) (name : String) :
    (carried layers).find? name
      = if carriedUnder layers name = [] then none else some (carriedUnder layers name) := by
  have hmem : name ∈ layers.flatMap (fun l => l.aesthetics.names) ↔
      carriedUnder layers name ≠ [] := by
    rw [List.mem_flatMap, Ne, List.eq_nil_iff_forall_not_mem, not_forall]
    simp only [not_not, mem_carriedUnder_iff, Table.mem_names_iff]
    rw [exists_comm]
    simp only [exists_and_left]
  unfold carried
  rw [Table.find?_ofList_map]
  by_cases hnil : carriedUnder layers name = []
  · rw [if_pos hnil, if_neg (fun h => hmem.mp h hnil)]
  · rw [if_neg hnil, if_pos (hmem.mpr hnil)]

end Carried

variable [Scalar num]

/-!
## Single scales
-/

theorem inferDeclaration_eq_ok {name : String} {all : List (Series num)}
    {settings : Settings num} {d : ScaleDeclaration num}
    (h : inferDeclaration name all settings = .ok d) :
    (forall s, s ∈ all -> s.type = .number) ∧
      d = .continuous
        { limits := some (limitsAround settings.inferredMargin all), breaks := none,
          labels := none } := by
  unfold inferDeclaration at h
  split at h
  · exact absurd h throw_ne_ok
  · split at h
    · exact absurd h throw_ne_ok
    · rename_i hnumbers
      constructor
      · intro s hs
        exact not_not.mp fun hne =>
          hnumbers (List.any_eq_true.mpr ⟨s, hs, Series.isNone_numbers?_iff.mpr hne⟩)
      · exact (pure_eq_ok.mp h).symm

theorem inferDeclaration_of_numbers {all : List (Series num)}
    (h : forall s, s ∈ all -> s.type = .number) (name : String) (settings : Settings num) :
    inferDeclaration name all settings = .ok (.continuous
      { limits := some (limitsAround settings.inferredMargin all), breaks := none,
        labels := none }) := by
  have hany : ¬ (all.any fun s => s.numbers?.isNone) = true := by
    intro hany
    rcases List.any_eq_true.mp hany with ⟨s, hs, hnone⟩
    exact Series.isNone_numbers?_iff.mp hnone (h s hs)
  unfold inferDeclaration
  rw [Series.agree_of_forall_type_eq h, Bool.not_true, if_neg Bool.false_ne_true, if_neg hany]
  rfl

end Plot

namespace Plot

/-!
## All scales
-/

section Scales

variable [Scalar num] [NumberText num]

def scaleOf (declared : Option (ScaleDeclaration num)) (name : String) (all : List (Series num))
    (settings : Settings num) : Except (PlotError num) (Scale num) :=
  match declared with
  | none => do
      let d <- inferDeclaration name all settings
      d.resolve none settings
  | some d => d.resolve (some (Series.concat all)) settings

variable {declared : ScaleDeclarations num} {carried : Table (List (Series num))}
  {settings : Settings num} {scales : Table (Scale num)}

theorem addInferred_eq (settings : Settings num) (scales : Table (Scale num))
    {entry : String × List (Series num)} (h : declared.find? entry.1 = none) :
    addInferred settings scales entry
      = scales.insert entry.1 <$>
          scaleOf (declared.find? entry.1) entry.1 entry.2 settings := by
  unfold addInferred scaleOf
  rw [h]
  cases inferDeclaration entry.1 entry.2 settings with
  | error e => rfl
  | ok d =>
      change (d.resolve none settings >>= fun s => pure (scales.insert entry.1 s))
        = scales.insert entry.1 <$> d.resolve none settings
      cases d.resolve none settings with
      | error e => rfl
      | ok s => rfl

theorem addDeclared_eq (settings : Settings num) (scales : Table (Scale num))
    {entry : String × List (Series num)} {d : ScaleDeclaration num}
    (h : declared.find? entry.1 = some d) :
    addDeclared declared settings scales entry
      = scales.insert entry.1 <$>
          scaleOf (declared.find? entry.1) entry.1 entry.2 settings := by
  unfold addDeclared scaleOf
  rw [h]

theorem find?_of_resolveScales_eq_ok
    (h : resolveScales declared carried settings = .ok scales) (name : String) :
    match carried.find? name with
    | some all => exists s, scaleOf (declared.find? name) name all settings = .ok s ∧
        scales.find? name = some s
    | none => scales.find? name = none := by
  unfold resolveScales at h
  rcases bind_eq_ok.mp h with ⟨inferred, hinferred, hdeclared⟩
  have hafterInferred := Table.find?_of_foldlM_eq_ok
    (f := fun e => scaleOf (declared.find? e.1) e.1 e.2 settings)
    (fun t e he => addInferred_eq settings t (Table.find?_eq_none_of_mem_filter he)) hinferred name
  have hafterDeclared := Table.find?_of_foldlM_eq_ok
    (f := fun e => scaleOf (declared.find? e.1) e.1 e.2 settings)
    (fun t e he => by
      rcases Table.exists_find?_of_mem_filter he with ⟨d, hd⟩
      exact addDeclared_eq settings t hd) hdeclared name
  rw [Table.find?_filter] at hafterInferred hafterDeclared
  -- The second loop leaves alone what the first one put under names without a declaration.
  cases hcarried : carried.find? name with
  | none =>
      rw [hcarried] at hafterInferred hafterDeclared
      exact hafterDeclared.trans hafterInferred
  | some all =>
      rw [hcarried] at hafterInferred hafterDeclared
      cases hcontains : declared.contains name with
      | true =>
          simp only [Option.filter_some, hcontains, ↓reduceIte] at hafterDeclared
          exact hafterDeclared
      | false =>
          simp only [Option.filter_some, hcontains, Bool.not_false, Bool.false_eq_true,
            ↓reduceIte] at hafterDeclared hafterInferred
          rcases hafterInferred with ⟨s, hs, hfind⟩
          exact ⟨s, hs, hafterDeclared.trans hfind⟩

theorem exists_resolveScales_eq_ok
    (h : forall name all, carried.find? name = some all ->
      exists s, scaleOf (declared.find? name) name all settings = .ok s) :
    exists scales, resolveScales declared carried settings = .ok scales := by
  have hentry : forall e, e ∈ carried.entries ->
      exists s, scaleOf (declared.find? e.1) e.1 e.2 settings = .ok s := by
    intro e he
    exact h e.1 e.2 (Table.mem_entries_iff.mp he)
  have hundeclared : exists inferred,
      (carried.filter fun name _ => !declared.contains name).entries.foldlM (addInferred settings)
        Table.empty = .ok inferred :=
    Table.exists_foldlM_eq_ok
      (fun t e he => addInferred_eq settings t (Table.find?_eq_none_of_mem_filter he))
      (fun e he => hentry e (List.mem_filter.mp he).1) Table.empty
  rcases hundeclared with ⟨inferred, hinferred⟩
  have hdeclared : exists scales,
      (carried.filter fun name _ => declared.contains name).entries.foldlM
        (addDeclared declared settings) inferred = .ok scales :=
    Table.exists_foldlM_eq_ok
      (fun t e he => by
        rcases Table.exists_find?_of_mem_filter he with ⟨d, hd⟩
        exact addDeclared_eq settings t hd)
      (fun e he => hentry e (List.mem_filter.mp he).1) inferred
  rcases hdeclared with ⟨scales, hscales⟩
  exact ⟨scales, bind_eq_ok.mpr ⟨inferred, hinferred, hscales⟩⟩

/-- Scales are resolved exactly if every carried aesthetic has one, and then there are no others. -/
theorem resolveScales_eq_ok_iff :
    resolveScales declared carried settings = .ok scales ↔
      forall name, match carried.find? name with
        | some all => exists s, scaleOf (declared.find? name) name all settings = .ok s ∧
            scales.find? name = some s
        | none => scales.find? name = none := by
  constructor
  · intro h name
    exact find?_of_resolveScales_eq_ok h name
  · intro h
    have hexists : exists resolved, resolveScales declared carried settings = .ok resolved := by
      apply exists_resolveScales_eq_ok
      intro name all hall
      have hname := h name
      rw [hall] at hname
      rcases hname with ⟨s, hs, _⟩
      exact ⟨s, hs⟩
    rcases hexists with ⟨resolved, hresolved⟩
    rw [hresolved]
    apply congrArg Except.ok
    apply Table.ext_find?
    intro name
    have hname := h name
    have hname' := find?_of_resolveScales_eq_ok hresolved name
    cases hcarried : carried.find? name with
    | none =>
        rw [hcarried] at hname hname'
        exact hname'.trans hname.symm
    | some all =>
        rw [hcarried] at hname hname'
        rcases hname with ⟨s, hs, hfind⟩
        rcases hname' with ⟨s', hs', hfind'⟩
        rw [hs] at hs'
        cases hs'
        exact hfind'.trans hfind.symm

theorem find?_of_resolveScales_carried_eq_ok {layers : List (ResolvedLayer num)}
    (h : resolveScales declared (Plot.carried layers) settings = .ok scales) (name : String) :
    if carriedUnder layers name = [] then scales.find? name = none
    else exists s, scaleOf (declared.find? name) name (carriedUnder layers name) settings = .ok s ∧
      scales.find? name = some s := by
  have hname := find?_of_resolveScales_eq_ok h name
  rw [find?_carried] at hname
  by_cases hnil : carriedUnder layers name = []
  · rw [if_pos hnil] at hname ⊢
    exact hname
  · rw [if_neg hnil] at hname ⊢
    exact hname

/-!
## Stages of a compilation
-/

def sharedSeries (plot : Plot num) (frame : Frame num) :
    Except (PlotError num) (Table (Series num)) :=
  match plot.mapping with
  | some m => m.evaluate frame
  | none => pure Table.empty

def resolveLayers (plot : Plot num) (frame : Frame num) :
    Except (PlotError num) (List (ResolvedLayer num)) := do
  let shared <- plot.sharedSeries (plot.frame.getD frame)
  plot.layers.mapM fun l => l.resolve (plot.frame.getD frame) shared

/-- The scales depend on the mappings of a plot only through what its layers carry. -/
theorem compile_eq (plot : Plot num) (frame : Frame num) (settings : Settings num) :
    plot.compile frame settings
      = plot.resolveLayers frame >>= fun layers =>
          resolveScales (plot.scales.getD Table.empty) (Plot.carried layers) settings >>=
            fun scales => pure { layers := layers, scales := scales } := by
  unfold compile resolveLayers sharedSeries
  cases plot.mapping with
  | none => rfl
  | some m => rw [bind_assoc]

theorem compile_eq_ok_iff_resolveLayers {plot : Plot num} {frame : Frame num}
    {compiled : CompiledPlot num} :
    plot.compile frame settings = .ok compiled ↔
      plot.resolveLayers frame = .ok compiled.layers ∧
        resolveScales (plot.scales.getD Table.empty) (Plot.carried compiled.layers) settings
          = .ok compiled.scales := by
  rw [compile_eq, bind_eq_ok]
  constructor
  · intro h
    rcases h with ⟨layers, hlayers, h⟩
    rcases bind_eq_ok.mp h with ⟨scales, hscales, h⟩
    cases pure_eq_ok.mp h
    exact ⟨hlayers, hscales⟩
  · intro h
    refine ⟨compiled.layers, h.1, ?_⟩
    apply bind_eq_ok.mpr
    exact ⟨compiled.scales, h.2, rfl⟩

theorem compile_eq_ok_iff {plot : Plot num} {frame : Frame num} {compiled : CompiledPlot num} :
    plot.compile frame settings = .ok compiled ↔
      exists shared, plot.sharedSeries (plot.frame.getD frame) = .ok shared ∧
        plot.layers.mapM (fun l => l.resolve (plot.frame.getD frame) shared)
          = .ok compiled.layers ∧
        resolveScales (plot.scales.getD Table.empty) (Plot.carried compiled.layers) settings
          = .ok compiled.scales := by
  rw [compile_eq_ok_iff_resolveLayers, resolveLayers, bind_eq_ok]
  constructor
  · intro h
    rcases h with ⟨⟨shared, hshared, hlayers⟩, hscales⟩
    exact ⟨shared, hshared, hlayers, hscales⟩
  · intro h
    rcases h with ⟨shared, hshared, hlayers, hscales⟩
    exact ⟨⟨shared, hshared, hlayers⟩, hscales⟩

end Scales

end Plot

namespace CompiledPlot

/-!
## Compiled plots
-/

variable [Scalar num] [NumberText num] {frame : Frame num} {parts : List (PlotPart num)}
  {settings : Settings num} {compiled : CompiledPlot num} {name : String}

def carried (compiled : CompiledPlot num) (name : String) : List (Series num) :=
  Plot.carriedUnder compiled.layers name

def layersOf (frame : Frame num) (parts : List (PlotPart num)) :
    Except (PlotError num) (List (ResolvedLayer num)) := do
  let plot <- Plot.ofParts parts
  plot.resolveLayers frame

/-- The series that the layers of a plot carry for an aesthetic, whether or not the plot compiles;
layers that have no values carry none. -/
def carriedOf (frame : Frame num) (parts : List (PlotPart num)) (name : String) :
    List (Series num) :=
  match layersOf frame parts with
  | .ok layers => Plot.carriedUnder layers name
  | .error _ => []

theorem layersOf_of_ofParts_eq_ok (h : ofParts frame parts settings = .ok compiled) :
    layersOf frame parts = .ok compiled.layers := by
  rcases bind_eq_ok.mp h with ⟨plot, hplot, hcompile⟩
  exact bind_eq_ok.mpr ⟨plot, hplot, (Plot.compile_eq_ok_iff_resolveLayers.mp hcompile).1⟩

theorem resolveScales_of_ofParts_eq_ok (h : ofParts frame parts settings = .ok compiled) :
    exists plot, Plot.ofParts parts = .ok plot ∧
      Plot.resolveScales (plot.scales.getD Table.empty) (Plot.carried compiled.layers) settings
        = .ok compiled.scales := by
  unfold ofParts at h
  rcases bind_eq_ok.mp h with ⟨plot, hplot, h⟩
  rcases Plot.compile_eq_ok_iff.mp h with ⟨shared, hshared, hlayers, hscales⟩
  exact ⟨plot, hplot, hscales⟩

theorem find?_scales_of_ofParts_eq_ok (h : ofParts frame parts settings = .ok compiled)
    (name : String) :
    if compiled.carried name = [] then compiled.scales.find? name = none
    else exists s,
      Plot.scaleOf (ScaleDeclaration.unite? (PlotPart.declarationsOf parts name)) name
        (compiled.carried name) settings = .ok s ∧
      compiled.scales.find? name = some s := by
  rcases resolveScales_of_ofParts_eq_ok h with ⟨plot, hplot, hscales⟩
  rcases Plot.assembles_of_ofParts_eq_ok hplot with ⟨_, hassembles⟩
  rw [← hassembles.declarations]
  exact Plot.find?_of_resolveScales_carried_eq_ok hscales name

theorem exists_scale_of_ne_nil (h : ofParts frame parts settings = .ok compiled)
    (hcarried : compiled.carried name ≠ []) :
    exists s, compiled.scales.find? name = some s ∧
      Plot.scaleOf (ScaleDeclaration.unite? (PlotPart.declarationsOf parts name)) name
        (compiled.carried name) settings = .ok s := by
  have hname := find?_scales_of_ofParts_eq_ok h name
  rw [if_neg hcarried] at hname
  rcases hname with ⟨s, hs, hfind⟩
  exact ⟨s, hfind, hs⟩

theorem scaleOf_eq_ok_of_find?_eq_some (h : ofParts frame parts settings = .ok compiled)
    {s : Scale num} (hs : compiled.scales.find? name = some s) :
    compiled.carried name ≠ [] ∧
      Plot.scaleOf (ScaleDeclaration.unite? (PlotPart.declarationsOf parts name)) name
        (compiled.carried name) settings = .ok s := by
  have hname := find?_scales_of_ofParts_eq_ok h name
  split at hname
  next =>
      rw [hname] at hs
      cases hs
  next hne =>
      rcases hname with ⟨s', hs', hfind⟩
      rw [hs] at hfind
      cases hfind
      exact ⟨hne, hs'⟩

end CompiledPlot
end LayeredPlot
