import LayeredPlot.Number.Exact
import LayeredPlot.Proofs.Number.Exact
import LayeredPlot.Proofs.Plot.Resolution
import LayeredPlot.Proofs.Scale.Alike

/-!
# Plots with their layers in another order

The layers of a plot are resolved one by one, and a scale depends on what all layers carry for its
aesthetic, whichever comes first.  So a plot whose layers are put in another order compiles to the
same scales and to the same layers in that order.
-/

namespace LayeredPlot

variable {item other error : Type}

/-!
## Lists in another order
-/

def reordered (order : List Nat) (xs : List item) : List item :=
  order.filterMap fun i => xs[i]?

theorem reordered_range (xs : List item) : reordered (List.range xs.length) xs = xs := by
  induction xs with
  | nil => rfl
  | cons x rest ih =>
      unfold reordered at ih ⊢
      rw [List.length_cons, List.range_succ_eq_map, List.filterMap_cons, List.filterMap_map]
      exact congrArg (List.cons x) ih

theorem reordered_perm {order : List Nat} {xs : List item}
    (h : order.Perm (List.range xs.length)) : (reordered order xs).Perm xs := by
  have hperm : (reordered order xs).Perm (reordered (List.range xs.length) xs) := h.filterMap _
  rwa [reordered_range] at hperm

theorem forall₂_reordered {R : item -> other -> Prop} {xs : List item} {ys : List other}
    (h : List.Forall₂ R xs ys) (order : List Nat) :
    List.Forall₂ R (reordered order xs) (reordered order ys) := by
  induction order with
  | nil => exact List.Forall₂.nil
  | cons i rest ih =>
      unfold reordered at ih ⊢
      by_cases hi : i < xs.length
      · have hi' : i < ys.length := h.length_eq ▸ hi
        rw [List.filterMap_cons_some (List.getElem?_eq_getElem hi),
          List.filterMap_cons_some (List.getElem?_eq_getElem hi')]
        exact List.Forall₂.cons (h.get hi hi') ih
      · have hi' : ¬ i < ys.length := h.length_eq ▸ hi
        rw [List.filterMap_cons_none (List.getElem?_eq_none (Nat.le_of_not_lt hi)),
          List.filterMap_cons_none (List.getElem?_eq_none (Nat.le_of_not_lt hi'))]
        exact ih

theorem exists_mapM_eq_ok_iff {f : item -> Except error other} {xs : List item} :
    (exists ys, xs.mapM f = .ok ys) ↔ forall x, x ∈ xs -> exists y, f x = .ok y := by
  induction xs with
  | nil =>
      refine iff_of_true ⟨[], rfl⟩ ?_
      intro x hx
      cases hx
  | cons x rest ih =>
      rw [List.forall_mem_cons, ← ih]
      simp only [mapM_eq_ok_iff, List.forall₂_cons_left_iff]
      constructor
      · intro h
        rcases h with ⟨_, y, ys, hy, hys, _⟩
        exact ⟨⟨y, hy⟩, ys, hys⟩
      · intro h
        rcases h with ⟨⟨y, hy⟩, ys, hys⟩
        exact ⟨_, y, ys, hy, hys, rfl⟩

theorem mapM_reordered {f : item -> Except error other} {xs : List item} {ys : List other}
    (h : xs.mapM f = .ok ys) (order : List Nat) :
    (reordered order xs).mapM f = .ok (reordered order ys) :=
  mapM_eq_ok_iff.mpr (forall₂_reordered (mapM_eq_ok_iff.mp h) order)

variable {num : Type} [Scalar num]

/-!
## Series in another order
-/

namespace Series

def AreDefined (all : List (Series num)) : Prop :=
  forall s, s ∈ all -> forall xs, s.numbers? = some xs -> forall x, x ∈ xs -> Scalar.IsDefined x

variable {all others : List (Series num)}

theorem AreDefined.perm (h : AreDefined all) (hperm : all.Perm others) : AreDefined others :=
  fun s hs => h s (hperm.mem_iff.mpr hs)

theorem AreDefined.isDefined (h : AreDefined all) {x : num}
    (hx : x ∈ all.flatMap fun s => s.numbers?.getD []) : Scalar.IsDefined x := by
  rcases List.mem_flatMap.mp hx with ⟨s, hs, hx⟩
  cases hxs : s.numbers? with
  | none =>
      rw [hxs] at hx
      cases hx
  | some xs =>
      rw [hxs] at hx
      exact h s hs xs hxs x hx

end Series

namespace Plot

/-!
## Layers in another order
-/

variable {layers resolved : List (ResolvedLayer num)}

def CarryDefined (layers : List (ResolvedLayer num)) : Prop :=
  forall l, l ∈ layers -> forall name xs, l.aesthetics.find? name = some (.numbers xs) ->
    forall x, x ∈ xs -> Scalar.IsDefined x

theorem CarryDefined.areDefined (h : CarryDefined layers) (name : String) :
    Series.AreDefined (carriedUnder layers name) := by
  intro s hs xs hxs
  rcases mem_carriedUnder_iff.mp hs with ⟨l, hl, hfind⟩
  cases s with
  | texts ss => cases hxs
  | numbers ys =>
      cases hxs
      exact h l hl name _ hfind

theorem CarryDefined.perm (h : CarryDefined layers) (hperm : layers.Perm resolved) :
    CarryDefined resolved :=
  fun l hl => h l (hperm.mem_iff.mpr hl)

def reorder (order : List Nat) (plot : Plot num) : Plot num :=
  { plot with layers := reordered order plot.layers }

variable {plot : Plot num} {frame : Frame num} {order : List Nat}

theorem resolveLayers_reorder (h : plot.resolveLayers frame = .ok layers) (order : List Nat) :
    (plot.reorder order).resolveLayers frame = .ok (reordered order layers) := by
  rcases bind_eq_ok.mp h with ⟨shared, hshared, hlayers⟩
  exact bind_eq_ok.mpr ⟨shared, hshared, mapM_reordered hlayers order⟩

theorem exists_resolveLayers_eq_ok_of_reorder (horder : order.Perm (List.range plot.layers.length))
    (h : (plot.reorder order).resolveLayers frame = .ok layers) :
    exists original, plot.resolveLayers frame = .ok original ∧
      layers = reordered order original := by
  rcases bind_eq_ok.mp h with ⟨shared, hshared, hlayers⟩
  have hall : exists original,
      plot.layers.mapM (fun l => l.resolve (plot.frame.getD frame) shared) = .ok original := by
    apply exists_mapM_eq_ok_iff.mpr
    intro l hl
    exact exists_mapM_eq_ok_iff.mp ⟨layers, hlayers⟩ l ((reordered_perm horder).mem_iff.mpr hl)
  rcases hall with ⟨original, horiginal⟩
  have hresolved : plot.resolveLayers frame = .ok original :=
    bind_eq_ok.mpr ⟨shared, hshared, horiginal⟩
  refine ⟨original, hresolved, ?_⟩
  rw [resolveLayers_reorder hresolved order] at h
  cases h
  rfl

theorem length_of_resolveLayers_eq_ok (h : plot.resolveLayers frame = .ok layers) :
    layers.length = plot.layers.length := by
  rcases bind_eq_ok.mp h with ⟨shared, _, hlayers⟩
  exact (mapM_eq_ok_iff.mp hlayers).length_eq.symm

/-!
## Scales
-/

variable [Scalar.Lawful num] {all others : List (Series num)}

theorem limitsAround_alike (hperm : all.Perm others) (margin : num) :
    (limitsAround margin all).Alike (limitsAround margin others) := by
  have hunion : forall all : List (Series num), limitsAround margin all
      = ((all.filterMap Series.numbers?).map (Limits.around margin)).foldl Limits.union
          Limits.nothing :=
    fun _ => List.foldl_map.symm
  rw [hunion, hunion]
  exact Limits.foldl_union_alike ((hperm.filterMap Series.numbers?).map (Limits.around margin))

theorem exists_startLimits_eq_ok {c : ContinuousDeclaration num} {settings : Settings num}
    (hdefined : Series.AreDefined all) (hperm : all.Perm others) {l : Limits num}
    (h : c.startLimits (some (Series.concat all)) settings = .ok l) :
    exists m, c.startLimits (some (Series.concat others)) settings = .ok m ∧ l.Alike m := by
  cases hlimits : c.limits with
  | some declared =>
      rw [ContinuousDeclaration.startLimits_of_limits_eq_some hlimits] at h
      exact ⟨l, (ContinuousDeclaration.startLimits_of_limits_eq_some hlimits).trans h,
        Limits.Alike.refl l⟩
  | none =>
      rcases ContinuousDeclaration.startLimits_eq_ok hlimits h with ⟨_, xs, hconcat, hxs, rfl⟩
      cases hconcat
      rcases Series.numbers?_concat_eq_some_iff.mp hxs with ⟨hnumbers, rfl⟩
      have hothers := Series.numbers?_concat_eq_some_iff.mpr
        ⟨fun s hs => hnumbers s (hperm.mem_iff.mpr hs), rfl⟩
      refine ⟨_, ContinuousDeclaration.startLimits_of_numbers hlimits hothers, ?_⟩
      exact Limits.Alike.around (fun x hx => hdefined.isDefined hx)
        (hperm.flatMap_right fun s => s.numbers?.getD []) settings.margin

variable [NumberText num] {name : String} {settings : Settings num}

theorem exists_scaleOf_eq_ok {declared : Option (ScaleDeclaration num)} {s : Scale num}
    (hdefined : Series.AreDefined all) (hperm : all.Perm others)
    (h : scaleOf declared name all settings = .ok s) :
    exists t, scaleOf declared name others settings = .ok t ∧ s.Alike t := by
  cases declared with
  | none =>
      rcases bind_eq_ok.mp h with ⟨d, hd, hresolve⟩
      rcases inferDeclaration_eq_ok hd with ⟨hnumbers, rfl⟩
      have hothers := inferDeclaration_of_numbers
        (fun s hs => hnumbers s (hperm.mem_iff.mpr hs)) name settings
      have hscale : exists t,
          (ScaleDeclaration.continuous
            { limits := some (limitsAround settings.inferredMargin others), breaks := none,
              labels := none }).resolve none settings = .ok t ∧ s.Alike t := by
        refine ScaleDeclaration.resolve_eq_ok_of_alike ?_ ?_ ?_ hresolve
        · rfl
        · rfl
        · intro l hl
          cases (ContinuousDeclaration.startLimits_of_limits_eq_some rfl).symm.trans hl
          exact ⟨_, ContinuousDeclaration.startLimits_of_limits_eq_some rfl,
            limitsAround_alike hperm settings.inferredMargin⟩
      rcases hscale with ⟨t, ht, halike⟩
      exact ⟨t, bind_eq_ok.mpr ⟨_, hothers, ht⟩, halike⟩
  | some d =>
      cases d with
      | discrete e => exact absurd h throw_ne_ok
      | continuous c =>
          exact ScaleDeclaration.resolve_eq_ok_of_alike rfl rfl
            (fun _ hl => exists_startLimits_eq_ok hdefined hperm hl) h

variable {ds : ScaleDeclarations num} {scales : Table (Scale num)}

theorem exists_resolveScales_eq_ok_of_perm (hdefined : CarryDefined layers)
    (hperm : layers.Perm resolved)
    (h : resolveScales ds (carried layers) settings = .ok scales) :
    exists others, resolveScales ds (carried resolved) settings = .ok others ∧
      forall name, Option.Rel Scale.Alike (scales.find? name) (others.find? name) := by
  have hscale : forall name, carriedUnder layers name ≠ [] -> exists s t,
      scales.find? name = some s ∧
        scaleOf (ds.find? name) name (carriedUnder resolved name) settings = .ok t ∧
        s.Alike t := by
    intro name hne
    have hname := find?_of_resolveScales_carried_eq_ok h name
    rw [if_neg hne] at hname
    rcases hname with ⟨s, hs, hfind⟩
    rcases exists_scaleOf_eq_ok (hdefined.areDefined name) (carriedUnder_perm hperm name) hs with
      ⟨t, ht, halike⟩
    exact ⟨s, t, hfind, ht, halike⟩
  have hnil : forall name, carriedUnder layers name = [] ↔ carriedUnder resolved name = [] := by
    intro name
    have hcarried := carriedUnder_perm hperm name
    exact ⟨fun hnil => (hnil ▸ hcarried).nil_eq.symm, fun hnil => (hnil ▸ hcarried).eq_nil⟩
  have hexists : exists others, resolveScales ds (carried resolved) settings = .ok others := by
    apply exists_resolveScales_eq_ok
    intro name all hall
    rw [find?_carried] at hall
    split at hall
    · cases hall
    next hne =>
        cases hall
        rcases hscale name fun h => hne ((hnil name).mp h) with ⟨s, t, _, ht, _⟩
        exact ⟨t, ht⟩
  rcases hexists with ⟨others, hothers⟩
  refine ⟨others, hothers, ?_⟩
  intro name
  have hname := find?_of_resolveScales_carried_eq_ok h name
  have hname' := find?_of_resolveScales_carried_eq_ok hothers name
  by_cases hempty : carriedUnder layers name = []
  · rw [if_pos hempty] at hname
    rw [if_pos ((hnil name).mp hempty)] at hname'
    rw [hname, hname']
    exact Option.Rel.none
  · rcases hscale name hempty with ⟨s, t, hfind, ht, halike⟩
    rw [if_neg fun h => hempty ((hnil name).mpr h)] at hname'
    rcases hname' with ⟨t', ht', hfind'⟩
    cases ht.symm.trans ht'
    rw [hfind, hfind']
    exact Option.Rel.some halike

/-!
## Plots
-/

/-- Layers may be put in any order: if all numbers that they carry are defined, the plot compiles
exactly if it did before, to the same layers in the new order and to the same scales up to the
signs of zeros. -/
theorem compile_reorder (horder : order.Perm (List.range plot.layers.length))
    (hdefined : forall layers, plot.resolveLayers frame = .ok layers -> CarryDefined layers) :
    ((exists compiled, plot.compile frame settings = .ok compiled) ↔
      exists compiled, (plot.reorder order).compile frame settings = .ok compiled) ∧
    forall compiled other, plot.compile frame settings = .ok compiled ->
      (plot.reorder order).compile frame settings = .ok other ->
      other.layers = reordered order compiled.layers ∧
      forall name, Option.Rel Scale.Alike (compiled.scales.find? name)
        (other.scales.find? name) := by
  have hperm : forall layers, plot.resolveLayers frame = .ok layers ->
      layers.Perm (reordered order layers) := by
    intro layers hlayers
    apply (reordered_perm _).symm
    rwa [length_of_resolveLayers_eq_ok hlayers]
  refine ⟨⟨?_, ?_⟩, ?_⟩
  · intro h
    rcases h with ⟨compiled, hcompiled⟩
    rcases compile_eq_ok_iff_resolveLayers.mp hcompiled with ⟨hlayers, hscales⟩
    rcases exists_resolveScales_eq_ok_of_perm (hdefined _ hlayers) (hperm _ hlayers) hscales with
      ⟨others, hothers, _⟩
    exact ⟨⟨_, others⟩, compile_eq_ok_iff_resolveLayers.mpr
      ⟨resolveLayers_reorder hlayers order, hothers⟩⟩
  · intro h
    rcases h with ⟨compiled, hcompiled⟩
    rcases compile_eq_ok_iff_resolveLayers.mp hcompiled with ⟨hlayers, hscales⟩
    rcases exists_resolveLayers_eq_ok_of_reorder horder hlayers with ⟨original, horiginal, heq⟩
    rw [heq] at hscales
    have hback := hperm original horiginal
    rcases exists_resolveScales_eq_ok_of_perm ((hdefined _ horiginal).perm hback) hback.symm
        hscales with ⟨others, hothers, _⟩
    exact ⟨⟨_, others⟩, compile_eq_ok_iff_resolveLayers.mpr ⟨horiginal, hothers⟩⟩
  · intro compiled other hcompiled hother
    rcases compile_eq_ok_iff_resolveLayers.mp hcompiled with ⟨hlayers, hscales⟩
    rcases compile_eq_ok_iff_resolveLayers.mp hother with ⟨hlayers', hscales'⟩
    rw [resolveLayers_reorder hlayers order] at hlayers'
    have heq := Except.ok.inj hlayers'
    rw [← heq] at hscales'
    rcases exists_resolveScales_eq_ok_of_perm (hdefined _ hlayers) (hperm _ hlayers) hscales with
      ⟨others, hothers, hrel⟩
    cases hothers.symm.trans hscales'
    exact ⟨heq.symm, hrel⟩

/-!
## A layer without rows
-/

def rowlessPlot : Plot Exact where
  frame := none
  mapping := some (Table.ofList
    [("x", .series (.numbers [.value 3, .value 8])), ("y", .series (.numbers [.value 1, .value 2]))])
  scales := some (Table.singleton "y" (.continuous .empty))
  layers :=
    [{ mark := .point, frame := none, mapping := none, properties := Table.empty },
      { mark := .line, frame := none, mapping := some (Table.ofList
          [("x", .series (.numbers [])), ("y", .series (.numbers []))]),
        properties := Table.empty }]

theorem compile_reorder_rowlessPlot :
    exists compiled other, rowlessPlot.compile Frame.empty Settings.standard = .ok compiled ∧
      (rowlessPlot.reorder [1, 0]).compile Frame.empty Settings.standard = .ok other ∧
      other.layers = reordered [1, 0] compiled.layers ∧
      forall name, Option.Rel Scale.Alike (compiled.scales.find? name)
        (other.scales.find? name) := by
  have hlayers : (rowlessPlot.resolveLayers Frame.empty).toOption.all (fun layers =>
      decide (forall l, l ∈ layers -> forall e, e ∈ l.aesthetics.entries ->
        forall x, x ∈ e.2.numbers?.getD [] -> Scalar.IsDefined x)) = true := by
    decide +kernel
  have hdefined : forall layers, rowlessPlot.resolveLayers Frame.empty = .ok layers ->
      CarryDefined layers := by
    intro layers h l hl name xs hxs x hx
    rw [h] at hlayers
    exact of_decide_eq_true hlayers l hl (name, _) (Table.mem_entries_iff.mpr hxs) x hx
  have horder : [1, 0].Perm (List.range rowlessPlot.layers.length) := by decide
  have hreorder : ((exists compiled,
      rowlessPlot.compile Frame.empty Settings.standard = .ok compiled) ↔ _) ∧ _ :=
    compile_reorder horder hdefined
  have hok : (rowlessPlot.compile Frame.empty Settings.standard).isOk = true := by
    decide +kernel
  cases hcompiled : rowlessPlot.compile Frame.empty Settings.standard with
  | error e =>
      rw [hcompiled] at hok
      cases hok
  | ok compiled =>
      rcases hreorder.1.mp ⟨compiled, hcompiled⟩ with ⟨other, hother⟩
      exact ⟨compiled, other, rfl, hother, hreorder.2 compiled other hcompiled hother⟩

end Plot
end LayeredPlot
