import Mathlib.Data.List.Induction
import LayeredPlot.Plot.Compiled
import LayeredPlot.Proofs.Plot.Agreement

/-!
# Putting plots together

The parts of a plot are added one after another, and every part is only compared
with what the parts before it have led to.  Nevertheless it is a condition on all
parts together that decides whether they make a plot, and which one: apart from the
layers their order is of no importance.
-/

namespace LayeredPlot

variable {num : Type}

/-!
## The parts of a plot
-/

namespace PlotPart

def mapping? : PlotPart num -> Option (Mapping num)
  | mapping m => some m
  | _ => none

def scales? : PlotPart num -> Option (ScaleDeclarations num)
  | scales ds => some ds
  | _ => none

def layer? : PlotPart num -> Option (Layer num)
  | layer l => some l
  | _ => none

def mappings (parts : List (PlotPart num)) : List (Mapping num) :=
  parts.filterMap mapping?

def declarations (parts : List (PlotPart num)) : List (ScaleDeclarations num) :=
  parts.filterMap scales?

def layers (parts : List (PlotPart num)) : List (Layer num) :=
  parts.filterMap layer?

def sourcesOf (parts : List (PlotPart num)) (name : String) : List (Source num) :=
  (mappings parts).filterMap fun m => m.find? name

def declarationsOf (parts : List (PlotPart num)) (name : String) : List (ScaleDeclaration num) :=
  (declarations parts).filterMap fun ds => ds.find? name

/-- Parts are consistent if no aesthetic is in two mappings and the declarations of every scale
agree. -/
structure Consistent (parts : List (PlotPart num)) : Prop where
  sources : forall name, (sourcesOf parts name).length ≤ 1
  declarations : forall name, ScaleDeclaration.Agree (declarationsOf parts name)

variable {parts others : List (PlotPart num)}

theorem sourcesOf_append (parts others : List (PlotPart num)) (name : String) :
    sourcesOf (parts ++ others) name = sourcesOf parts name ++ sourcesOf others name := by
  unfold sourcesOf mappings
  rw [List.filterMap_append, List.filterMap_append]

theorem declarationsOf_append (parts others : List (PlotPart num)) (name : String) :
    declarationsOf (parts ++ others) name
      = declarationsOf parts name ++ declarationsOf others name := by
  unfold declarationsOf declarations
  rw [List.filterMap_append, List.filterMap_append]

theorem mappings_perm (h : parts.Perm others) : (mappings parts).Perm (mappings others) :=
  h.filterMap mapping?

theorem declarations_perm (h : parts.Perm others) :
    (declarations parts).Perm (declarations others) :=
  h.filterMap scales?

theorem sourcesOf_concat_of_mapping?_eq_none {part : PlotPart num} (h : part.mapping? = none)
    (parts : List (PlotPart num)) (name : String) :
    sourcesOf (parts ++ [part]) name = sourcesOf parts name := by
  have hnone : mappings [part] = [] := by
    unfold mappings
    rw [List.filterMap_cons_none h, List.filterMap_nil]
  rw [sourcesOf_append, sourcesOf, sourcesOf, hnone]
  exact List.append_nil _

theorem declarationsOf_concat_of_scales?_eq_none {part : PlotPart num} (h : part.scales? = none)
    (parts : List (PlotPart num)) (name : String) :
    declarationsOf (parts ++ [part]) name = declarationsOf parts name := by
  have hnone : declarations [part] = [] := by
    unfold declarations
    rw [List.filterMap_cons_none h, List.filterMap_nil]
  rw [declarationsOf_append, declarationsOf, declarationsOf, hnone]
  exact List.append_nil _

theorem sourcesOf_perm (h : parts.Perm others) (name : String) :
    (sourcesOf parts name).Perm (sourcesOf others name) :=
  List.Perm.filterMap (fun m : Mapping num => m.find? name) (mappings_perm h)

theorem declarationsOf_perm (h : parts.Perm others) (name : String) :
    (declarationsOf parts name).Perm (declarationsOf others name) :=
  List.Perm.filterMap (fun ds : ScaleDeclarations num => ds.find? name) (declarations_perm h)

theorem Consistent.of_append (h : Consistent (parts ++ others)) : Consistent parts where
  sources := by
    intro name
    have hname := h.sources name
    rw [sourcesOf_append, List.length_append] at hname
    omega
  declarations := by
    intro name
    have hname := h.declarations name
    rw [declarationsOf_append] at hname
    exact hname.of_append

theorem Consistent.perm (h : Consistent parts) (hperm : parts.Perm others) :
    Consistent others where
  sources := by
    intro name
    rw [← (sourcesOf_perm hperm name).length_eq]
    exact h.sources name
  declarations := by
    intro name
    exact (h.declarations name).perm (declarationsOf_perm hperm name)

theorem consistent_nil : Consistent ([] : List (PlotPart num)) where
  sources := fun _ => Nat.zero_le 1
  declarations := fun _ => ScaleDeclaration.agree_nil

theorem sourcesOf_mapping (m : Mapping num) (name : String) :
    sourcesOf [mapping m] name = (m.find? name).toList := by
  cases h : m.find? name <;> simp [sourcesOf, mappings, mapping?, h]

theorem declarationsOf_scales (ds : ScaleDeclarations num) (name : String) :
    declarationsOf [scales ds] name = (ds.find? name).toList := by
  cases h : ds.find? name <;> simp [declarationsOf, declarations, scales?, h]

end PlotPart

open PlotPart

namespace Plot

/-!
## What parts make up
-/

/-- A plot assembles parts if it has the mappings, the scale declarations and the layers of all of
them, and nothing else. -/
structure Assembles (plot : Plot num) (parts : List (PlotPart num)) : Prop where
  frame : plot.frame = none
  mapping : plot.mapping = none ↔ mappings parts = []
  sources : forall name s,
    (plot.mapping.getD Table.empty).find? name = some s ↔ s ∈ sourcesOf parts name
  scales : plot.scales = none ↔ declarations parts = []
  declarations : forall name,
    (plot.scales.getD Table.empty).find? name
      = ScaleDeclaration.unite? (declarationsOf parts name)
  layers : plot.layers = PlotPart.layers parts

variable {plot next : Plot num} {part : PlotPart num} {parts others : List (PlotPart num)}

theorem option_eq_of_find?_eq {item : Type} {t u : Option (Table item)}
    (hnone : t = none ↔ u = none)
    (h : forall name, (t.getD Table.empty).find? name = (u.getD Table.empty).find? name) :
    t = u := by
  cases t with
  | none => exact (hnone.mp rfl).symm
  | some t =>
      cases u with
      | none => exact hnone.mpr rfl
      | some u => exact congrArg some (Table.ext_find? h)

theorem Assembles.unique (h : plot.Assembles parts) (hnext : next.Assembles parts) :
    plot = next := by
  have hmapping : plot.mapping = next.mapping := by
    apply option_eq_of_find?_eq (h.mapping.trans hnext.mapping.symm)
    intro name
    apply Option.ext
    intro s
    rw [h.sources, hnext.sources]
  have hscales : plot.scales = next.scales := by
    apply option_eq_of_find?_eq (h.scales.trans hnext.scales.symm)
    intro name
    rw [h.declarations, hnext.declarations]
  have hframe := h.frame.trans hnext.frame.symm
  have hlayers := h.layers.trans hnext.layers.symm
  cases plot
  cases next
  cases hframe
  cases hmapping
  cases hscales
  cases hlayers
  rfl

theorem Assembles.perm (h : plot.Assembles parts) (hconsistent : Consistent parts)
    (hperm : parts.Perm others) (hlayers : PlotPart.layers others = PlotPart.layers parts) :
    plot.Assembles others where
  frame := h.frame
  mapping := by
    rw [h.mapping, ← List.length_eq_zero_iff, (mappings_perm hperm).length_eq,
      List.length_eq_zero_iff]
  sources := by
    intro name s
    rw [h.sources, (sourcesOf_perm hperm name).mem_iff]
  scales := by
    rw [h.scales, ← List.length_eq_zero_iff, (declarations_perm hperm).length_eq,
      List.length_eq_zero_iff]
  declarations := by
    intro name
    rw [h.declarations, ScaleDeclaration.unite?_perm (hconsistent.declarations name)
      (declarationsOf_perm hperm name)]
  layers := h.layers.trans hlayers.symm

theorem empty_assembles : (empty : Plot num).Assembles [] where
  frame := rfl
  mapping := iff_of_true rfl rfl
  sources := by
    intro name s
    constructor
    · intro h
      cases h
    · intro h
      cases h
  scales := iff_of_true rfl rfl
  declarations := fun _ => rfl
  layers := rfl

/-!
## Adding a part
-/

theorem empty_merge_mapping (m : Mapping num) :
    Mapping.merge Table.empty m = .ok m := by
  have hdisjoint : forall name,
      (Table.empty : Mapping num).find? name = none ∨ m.find? name = none :=
    fun _ => Or.inl rfl
  rcases Mapping.exists_merge_eq_ok hdisjoint with ⟨merged, hmerged⟩
  rw [hmerged]
  apply congrArg Except.ok
  apply Table.ext_find?
  intro name
  exact (Mapping.find?_of_merge_eq_ok hmerged name).2

theorem empty_merge_scales (ds : ScaleDeclarations num) :
    ScaleDeclarations.merge Table.empty ds = .ok ds := by
  have hjoinable : forall name d e, (Table.empty : ScaleDeclarations num).find? name = some d ->
      ds.find? name = some e -> d.Joinable e := by
    intro name d e hd
    cases hd
  rcases ScaleDeclarations.exists_merge_eq_ok hjoinable with ⟨merged, hmerged⟩
  rw [hmerged]
  apply congrArg Except.ok
  apply Table.ext_find?
  intro name
  have hname := ScaleDeclarations.find?_of_merge_eq_ok hmerged name
  rw [Table.find?_empty] at hname
  cases he : ds.find? name with
  | none => rwa [he] at hname
  | some e => rwa [he] at hname

theorem add_mapping (plot : Plot num) (m : Mapping num) :
    plot.add (.mapping m)
      = (fun merged => { plot with mapping := some merged }) <$>
          (plot.mapping.getD Table.empty).merge m := by
  unfold add
  cases plot.mapping with
  | none =>
      rw [Option.getD_none, empty_merge_mapping]
      rfl
  | some current => rfl

theorem add_scales (plot : Plot num) (ds : ScaleDeclarations num) :
    plot.add (.scales ds)
      = (fun merged => { plot with scales := some merged }) <$>
          (plot.scales.getD Table.empty).merge ds := by
  unfold add
  cases plot.scales with
  | none =>
      rw [Option.getD_none, empty_merge_scales]
      rfl
  | some current => rfl

theorem Assembles.find?_eq_none_iff (h : plot.Assembles parts) (name : String) :
    (plot.mapping.getD Table.empty).find? name = none ↔ sourcesOf parts name = [] := by
  rw [Option.eq_none_iff_forall_ne_some, List.eq_nil_iff_forall_not_mem]
  apply forall_congr'
  intro s
  exact not_congr (h.sources name s)

theorem Assembles.exists_add_eq_ok (h : plot.Assembles parts)
    (hconsistent : Consistent (parts ++ [part])) : exists next, plot.add part = .ok next := by
  cases part with
  | mapping m =>
      have hdisjoint : forall name,
          (plot.mapping.getD Table.empty).find? name = none ∨ m.find? name = none := by
        intro name
        have hlength := hconsistent.sources name
        rw [sourcesOf_append, sourcesOf_mapping, List.length_append] at hlength
        rw [h.find?_eq_none_iff, ← List.length_eq_zero_iff]
        cases hm : m.find? name with
        | none => exact Or.inr rfl
        | some s =>
            rw [hm, Option.toList_some, List.length_singleton] at hlength
            exact Or.inl (by omega)
      rcases Mapping.exists_merge_eq_ok hdisjoint with ⟨merged, hmerged⟩
      rw [add_mapping, hmerged]
      exact ⟨_, rfl⟩
  | scales ds =>
      have hjoinable : forall name d e,
          (plot.scales.getD Table.empty).find? name = some d -> ds.find? name = some e ->
          d.Joinable e := by
        intro name d e hd he
        have hagree := hconsistent.declarations name
        rw [declarationsOf_append, declarationsOf_scales, he] at hagree
        rw [h.declarations] at hd
        exact (ScaleDeclaration.agree_concat_iff hagree.of_append hd).mp hagree
      rcases ScaleDeclarations.exists_merge_eq_ok hjoinable with ⟨merged, hmerged⟩
      rw [add_scales, hmerged]
      exact ⟨_, rfl⟩
  | layer l => exact ⟨_, rfl⟩

theorem Assembles.add_mapping (h : plot.Assembles parts) (hconsistent : Consistent parts)
    {m : Mapping num} (hadd : plot.add (.mapping m) = .ok next) :
    Consistent (parts ++ [.mapping m]) ∧ next.Assembles (parts ++ [.mapping m]) := by
  rw [Plot.add_mapping] at hadd
  rcases map_eq_ok.mp hadd with ⟨merged, hmerged, rfl⟩
  have hsources : forall name, sourcesOf (parts ++ [.mapping m]) name
      = sourcesOf parts name ++ (m.find? name).toList := by
    intro name
    rw [sourcesOf_append, sourcesOf_mapping]
  have hdeclarations : forall name, declarationsOf (parts ++ [.mapping m]) name
      = declarationsOf parts name :=
    declarationsOf_concat_of_scales?_eq_none rfl parts
  constructor
  · constructor
    · intro name
      rw [hsources, List.length_append]
      have hname := hconsistent.sources name
      rcases (Mapping.find?_of_merge_eq_ok hmerged name).1 with hnone | hnone
      · rw [h.find?_eq_none_iff] at hnone
        rw [hnone]
        cases m.find? name <;> simp
      · rw [hnone]
        exact hname
    · intro name
      rw [hdeclarations]
      exact hconsistent.declarations name
  · constructor
    · exact h.frame
    · simp [mappings, mapping?]
    · intro name s
      rw [hsources, List.mem_append, Option.mem_toList, ← h.sources]
      exact Mapping.find?_of_merge_eq_ok_iff hmerged name s
    · simpa [PlotPart.declarations, scales?] using h.scales
    · intro name
      rw [hdeclarations]
      exact h.declarations name
    · rw [PlotPart.layers, List.filterMap_append]
      exact h.layers.trans (List.append_nil _).symm

theorem Assembles.add_scales (h : plot.Assembles parts) (hconsistent : Consistent parts)
    {ds : ScaleDeclarations num} (hadd : plot.add (.scales ds) = .ok next) :
    Consistent (parts ++ [.scales ds]) ∧ next.Assembles (parts ++ [.scales ds]) := by
  rw [Plot.add_scales] at hadd
  rcases map_eq_ok.mp hadd with ⟨merged, hmerged, rfl⟩
  have hsources : forall name, sourcesOf (parts ++ [.scales ds]) name = sourcesOf parts name :=
    sourcesOf_concat_of_mapping?_eq_none rfl parts
  -- An agreement and the united declaration are found together, as both depend on what the plot
  -- has under the name.
  have hdeclarations : forall name,
      ScaleDeclaration.Agree (declarationsOf (parts ++ [.scales ds]) name) ∧
        merged.find? name
          = ScaleDeclaration.unite? (declarationsOf (parts ++ [.scales ds]) name) := by
    intro name
    have hmergedName := ScaleDeclarations.find?_of_merge_eq_ok hmerged name
    have hbefore := h.declarations name
    have hagree := hconsistent.declarations name
    rw [declarationsOf_append, declarationsOf_scales]
    cases he : ds.find? name with
    | none =>
        rw [he] at hmergedName
        rw [Option.toList_none, List.append_nil, ← hbefore]
        cases hd : (plot.scales.getD Table.empty).find? name with
        | none => exact ⟨hagree, by rwa [hd] at hmergedName⟩
        | some d => exact ⟨hagree, by rwa [hd] at hmergedName⟩
    | some e =>
        rw [he] at hmergedName
        cases hd : (plot.scales.getD Table.empty).find? name with
        | none =>
            rw [hd] at hmergedName
            rw [ScaleDeclaration.unite?_eq_none_iff.mp (hbefore.symm.trans hd)]
            exact ⟨ScaleDeclaration.agree_singleton e, hmergedName⟩
        | some d =>
            rw [hd] at hmergedName
            have hunite := hbefore.symm.trans hd
            exact ⟨(ScaleDeclaration.agree_concat_iff hagree hunite).mpr hmergedName.1,
              hmergedName.2.trans (ScaleDeclaration.unite?_concat hunite).symm⟩
  constructor
  · constructor
    · intro name
      rw [hsources]
      exact hconsistent.sources name
    · intro name
      exact (hdeclarations name).1
  · constructor
    · exact h.frame
    · simpa [mappings, mapping?] using h.mapping
    · intro name s
      rw [hsources]
      exact h.sources name s
    · simp [PlotPart.declarations, scales?]
    · intro name
      exact (hdeclarations name).2
    · rw [PlotPart.layers, List.filterMap_append]
      exact h.layers.trans (List.append_nil _).symm

theorem Assembles.add_layer (h : plot.Assembles parts) (hconsistent : Consistent parts)
    {l : Layer num} (hadd : plot.add (.layer l) = .ok next) :
    Consistent (parts ++ [.layer l]) ∧ next.Assembles (parts ++ [.layer l]) := by
  cases pure_eq_ok.mp hadd
  have hsources : forall name, sourcesOf (parts ++ [.layer l]) name = sourcesOf parts name :=
    sourcesOf_concat_of_mapping?_eq_none rfl parts
  have hdeclarations : forall name,
      declarationsOf (parts ++ [.layer l]) name = declarationsOf parts name :=
    declarationsOf_concat_of_scales?_eq_none rfl parts
  constructor
  · constructor
    · intro name
      rw [hsources]
      exact hconsistent.sources name
    · intro name
      rw [hdeclarations]
      exact hconsistent.declarations name
  · constructor
    · exact h.frame
    · simpa [mappings, mapping?] using h.mapping
    · intro name s
      rw [hsources]
      exact h.sources name s
    · simpa [PlotPart.declarations, scales?] using h.scales
    · intro name
      rw [hdeclarations]
      exact h.declarations name
    · simp [PlotPart.layers, layer?, h.layers]

theorem Assembles.add (h : plot.Assembles parts) (hconsistent : Consistent parts)
    (hadd : plot.add part = .ok next) :
    Consistent (parts ++ [part]) ∧ next.Assembles (parts ++ [part]) := by
  cases part with
  | mapping m => exact h.add_mapping hconsistent hadd
  | scales ds => exact h.add_scales hconsistent hadd
  | layer l => exact h.add_layer hconsistent hadd

/-!
## Adding all parts
-/

theorem ofParts_concat (parts : List (PlotPart num)) (part : PlotPart num) :
    ofParts (parts ++ [part]) = ofParts parts >>= fun plot => plot.add part := by
  unfold ofParts
  rw [List.foldlM_append]
  apply congrArg (Bind.bind _)
  funext plot
  rw [List.foldlM_cons]
  exact bind_pure _

theorem assembles_of_ofParts_eq_ok (h : ofParts parts = .ok plot) :
    Consistent parts ∧ plot.Assembles parts := by
  induction parts using List.reverseRecOn generalizing plot with
  | nil =>
      cases pure_eq_ok.mp h
      exact ⟨consistent_nil, empty_assembles⟩
  | append_singleton parts part ih =>
      rw [ofParts_concat] at h
      rcases bind_eq_ok.mp h with ⟨before, hbefore, hadd⟩
      rcases ih hbefore with ⟨hconsistent, hassembles⟩
      exact hassembles.add hconsistent hadd

theorem exists_ofParts_eq_ok (h : Consistent parts) : exists plot, ofParts parts = .ok plot := by
  induction parts using List.reverseRecOn with
  | nil => exact ⟨empty, rfl⟩
  | append_singleton parts part ih =>
      rcases ih h.of_append with ⟨before, hbefore⟩
      rcases assembles_of_ofParts_eq_ok hbefore with ⟨_, hassembles⟩
      rcases hassembles.exists_add_eq_ok h with ⟨plot, hplot⟩
      exists plot
      rw [ofParts_concat, hbefore]
      exact hplot

theorem ofParts_eq_ok_of_perm (hperm : parts.Perm others)
    (hlayers : PlotPart.layers others = PlotPart.layers parts)
    (h : ofParts parts = .ok plot) : ofParts others = .ok plot := by
  rcases assembles_of_ofParts_eq_ok h with ⟨hconsistent, hassembles⟩
  rcases exists_ofParts_eq_ok (hconsistent.perm hperm) with ⟨plot', hplot'⟩
  rcases assembles_of_ofParts_eq_ok hplot' with ⟨_, hassembles'⟩
  rw [hplot', hassembles'.unique (hassembles.perm hconsistent hperm hlayers)]

/-- Parts make a plot exactly if they are consistent, and it then has the union of their mappings,
the united declarations of every scale and their layers.  Other orders of the parts that leave the
layers in their order make the same plot and the same compiled plots. -/
theorem ofParts_eq_ok_iff_consistent [Scalar num] [NumberText num]
    (parts : List (PlotPart num)) :
    ((exists plot, ofParts parts = .ok plot) ↔ Consistent parts) ∧
      (forall plot, ofParts parts = .ok plot -> plot.Assembles parts) ∧
      forall others, parts.Perm others -> PlotPart.layers others = PlotPart.layers parts ->
        (forall plot, ofParts others = .ok plot ↔ ofParts parts = .ok plot) ∧
        forall frame settings compiled,
          CompiledPlot.ofParts frame others settings = .ok compiled ↔
            CompiledPlot.ofParts frame parts settings = .ok compiled := by
  refine ⟨⟨?_, exists_ofParts_eq_ok⟩, ?_, ?_⟩
  · intro h
    rcases h with ⟨plot, hplot⟩
    exact (assembles_of_ofParts_eq_ok hplot).1
  · intro plot hplot
    exact (assembles_of_ofParts_eq_ok hplot).2
  · intro others hperm hlayers
    have hsame : forall plot, ofParts others = .ok plot ↔ ofParts parts = .ok plot := by
      intro plot
      constructor
      · exact ofParts_eq_ok_of_perm hperm.symm hlayers.symm
      · exact ofParts_eq_ok_of_perm hperm hlayers
    -- A compilation looks at the parts only through the plot that they make.
    refine ⟨hsame, ?_⟩
    intro frame settings compiled
    unfold CompiledPlot.ofParts
    rw [bind_eq_ok, bind_eq_ok]
    simp only [hsame]

end Plot
end LayeredPlot
