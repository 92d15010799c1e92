import LayeredPlot.Layer.Basic
import LayeredPlot.Proofs.Table
import Mathlib.Data.List.Find
import Mathlib.Data.List.Nodup

/-!
# Values for the aesthetics of a layer

A layer keeps its own series and properties.  Any other aesthetic that its mark knows takes the
shared series of its name, or else the fallback of the mark, and a layer is refused for the first
required aesthetic with neither.  The rules of a mark are applied one after another to a layer that
grows on the way, but as they have different names, no rule sees what another one has found.
-/

namespace LayeredPlot

variable {num : Type}

/-!
## Rules
-/

namespace AestheticRule

def inherited? (shared : Table (Series num)) (rule : AestheticRule num) : Option (Series num) :=
  if rule.inheritable then shared.find? rule.name else none

def replaced? (shared : Table (Series num)) (rule : AestheticRule num) : Option (Cell num) :=
  if (rule.inherited? shared).isSome then none else rule.fallback

def settled (shared : Table (Series num)) (rule : AestheticRule num)
    (own : Option (Series num) × Option (Cell num)) : Option (Series num) × Option (Cell num) :=
  (own.1.or (if own.2.isSome then none else rule.inherited? shared),
    own.2.or (if own.1.isSome then none else rule.replaced? shared))

theorem find?_name_eq_none {rules : List (AestheticRule num)} {name : String} :
    (rules.find? fun r => r.name = name) = none ↔ name ∉ rules.map AestheticRule.name := by
  simp

end AestheticRule

namespace Mark

variable [Scalar num] {mark : Mark} {name : String} {rule : AestheticRule num}

theorem nodup_names_rules (mark : Mark) :
    ((mark.rules : List (AestheticRule num)).map AestheticRule.name).Nodup := by
  cases mark
  case point =>
    change ["x", "y", "colour", "alpha", "shape", "size"].Nodup
    decide
  case line =>
    change ["x", "y", "colour", "alpha", "size"].Nodup
    decide

theorem position_or_explained_of_mem_rules (h : rule ∈ mark.rules) :
    (exists name guide, rule = .position name guide) ∨
      exists name fallback, rule = .explained name fallback := by
  cases mark
  case point =>
    simp only [rules, List.mem_cons, List.not_mem_nil, or_false] at h
    rcases h with rfl | rfl | rfl | rfl | rfl | rfl
    all_goals first | exact Or.inl ⟨_, _, rfl⟩ | exact Or.inr ⟨_, _, rfl⟩
  case line =>
    simp only [rules, List.mem_cons, List.not_mem_nil, or_false] at h
    rcases h with rfl | rfl | rfl | rfl | rfl
    all_goals first | exact Or.inl ⟨_, _, rfl⟩ | exact Or.inr ⟨_, _, rfl⟩

theorem inheritable_of_mem_rules (h : rule ∈ mark.rules) : rule.inheritable = true := by
  rcases position_or_explained_of_mem_rules h with ⟨name, guide, rfl⟩ | ⟨name, fallback, rfl⟩
  · rfl
  · rfl

theorem required_or_exists_fallback_of_mem_rules (h : rule ∈ mark.rules) :
    rule.required = true ∨ exists c, rule.fallback = some c := by
  rcases position_or_explained_of_mem_rules h with ⟨name, guide, rfl⟩ | ⟨name, fallback, rfl⟩
  · exact Or.inl rfl
  · exact Or.inr ⟨fallback, rfl⟩

theorem inherited?_of_mem_rules (h : rule ∈ mark.rules) (shared : Table (Series num)) :
    rule.inherited? shared = shared.find? rule.name := by
  unfold AestheticRule.inherited?
  rw [if_pos (inheritable_of_mem_rules h)]

theorem rule?_eq_some_iff :
    mark.rule? name = some rule ↔ rule ∈ mark.rules ∧ rule.name = name := by
  have hname : forall {r : AestheticRule num}, mark.rule? name = some r ->
      r ∈ mark.rules ∧ r.name = name := by
    intro r h
    unfold rule? at h
    have htest := List.find?_some h
    exact ⟨List.mem_of_find?_eq_some h, of_decide_eq_true htest⟩
  constructor
  · exact hname
  · intro h
    cases hfind : (mark.rule? name : Option (AestheticRule num)) with
    | none =>
        have hfalse := List.find?_eq_none.mp hfind rule h.1
        exact absurd (decide_eq_true h.2) hfalse
    | some r =>
        rcases hname hfind with ⟨hr, hrname⟩
        rw [List.inj_on_of_nodup_map mark.nodup_names_rules hr h.1 (hrname.trans h.2.symm)]

end Mark

/-!
## One rule
-/

namespace ResolvedLayer

variable {shared : Table (Series num)} {layer : ResolvedLayer num} {rule : AestheticRule num}
  {name : String}

def lacks (shared : Table (Series num)) (layer : ResolvedLayer num) (rule : AestheticRule num) :
    Bool :=
  rule.required && !layer.aesthetics.contains rule.name && !layer.properties.contains rule.name
    && (rule.inherited? shared).isNone

def filled (shared : Table (Series num)) (layer : ResolvedLayer num) (rule : AestheticRule num) :
    ResolvedLayer num :=
  if layer.aesthetics.contains rule.name || layer.properties.contains rule.name then layer
  else match rule.inherited? shared with
  | some s => { layer with aesthetics := layer.aesthetics.insert rule.name s }
  | none =>
      match rule.fallback with
      | some c => { layer with properties := layer.properties.insert rule.name c }
      | none => layer

def valuesAt (layer : ResolvedLayer num) (name : String) :
    Option (Series num) × Option (Cell num) :=
  (layer.aesthetics.find? name, layer.properties.find? name)

theorem ext_valuesAt {other : ResolvedLayer num} (hmark : layer.mark = other.mark)
    (h : forall name, layer.valuesAt name = other.valuesAt name) : layer = other := by
  have haesthetics : layer.aesthetics = other.aesthetics :=
    Table.ext_find? fun name => congrArg Prod.fst (h name)
  have hproperties : layer.properties = other.properties :=
    Table.ext_find? fun name => congrArg Prod.snd (h name)
  cases layer
  cases other
  cases hmark
  cases haesthetics
  cases hproperties
  rfl

theorem fill_eq (shared : Table (Series num)) (layer : ResolvedLayer num)
    (rule : AestheticRule num) :
    layer.fill shared rule
      = if layer.lacks shared rule then throw (.missingAesthetic layer.mark rule.name)
        else pure (layer.filled shared rule) := by
  unfold fill lacks filled
  change (if _ then _ else match rule.inherited? shared with | some s => _ | none => _) = _
  cases layer.aesthetics.contains rule.name <;> cases layer.properties.contains rule.name <;>
  cases rule.inherited? shared <;> cases rule.required <;> cases rule.fallback <;> rfl

theorem mark_filled : (layer.filled shared rule).mark = layer.mark := by
  unfold filled
  split
  · rfl
  · split
    · rfl
    · split
      · rfl
      · rfl

theorem valuesAt_filled_of_ne (h : name ≠ rule.name) :
    (layer.filled shared rule).valuesAt name = layer.valuesAt name := by
  unfold filled
  split
  · rfl
  · split
    · exact Prod.ext (Table.find?_insert_of_ne _ h _) rfl
    · split
      · exact Prod.ext rfl (Table.find?_insert_of_ne _ h _)
      · rfl

theorem valuesAt_filled_self :
    (layer.filled shared rule).valuesAt rule.name
      = rule.settled shared (layer.valuesAt rule.name) := by
  unfold filled valuesAt AestheticRule.settled AestheticRule.replaced? Table.contains
  cases hseries : layer.aesthetics.find? rule.name with
  | some s =>
      cases hproperty : layer.properties.find? rule.name with
      | some c => exact Prod.ext hseries hproperty
      | none => exact Prod.ext hseries hproperty
  | none =>
      cases hproperty : layer.properties.find? rule.name with
      | some c => exact Prod.ext hseries hproperty
      | none =>
          cases rule.inherited? shared with
          | some s => exact Prod.ext (Table.find?_insert_self _ _ s) hproperty
          | none =>
              cases rule.fallback with
              | some c => exact Prod.ext hseries (Table.find?_insert_self _ _ c)
              | none => exact Prod.ext hseries hproperty

theorem lacks_filled_of_ne {other : AestheticRule num} (h : other.name ≠ rule.name) :
    (layer.filled shared rule).lacks shared other = layer.lacks shared other := by
  rcases Prod.mk.inj (valuesAt_filled_of_ne h) with ⟨hseries, hproperty⟩
  unfold lacks Table.contains
  rw [hseries, hproperty]

/-!
## All rules
-/

variable {rules : List (AestheticRule num)}

theorem foldlM_fill_eq (shared : Table (Series num)) (layer : ResolvedLayer num)
    (hrules : (rules.map AestheticRule.name).Nodup) :
    rules.foldlM (fill shared) layer
      = match rules.find? (layer.lacks shared) with
        | some rule => throw (.missingAesthetic layer.mark rule.name)
        | none => pure (rules.foldl (filled shared) layer) := by
  induction rules generalizing layer with
  | nil => rfl
  | cons rule rest ih =>
      rcases List.nodup_cons.mp hrules with ⟨hrule, hrest⟩
      rw [List.foldlM_cons, fill_eq]
      cases hlacks : layer.lacks shared rule with
      | true =>
          rw [List.find?_cons_of_pos hlacks]
          rfl
      | false =>
          have hsame : rest.find? ((layer.filled shared rule).lacks shared)
              = rest.find? (layer.lacks shared) := by
            apply List.find?_congr
            intro other hother
            apply lacks_filled_of_ne
            intro hname
            exact hrule (hname ▸ List.mem_map_of_mem hother)
          rw [List.find?_cons_of_neg (Bool.not_eq_true _ ▸ hlacks), List.foldl_cons]
          change rest.foldlM (fill shared) (layer.filled shared rule) = _
          rw [ih _ hrest, hsame, mark_filled]

theorem mark_foldl_filled : (rules.foldl (filled shared) layer).mark = layer.mark := by
  induction rules generalizing layer with
  | nil => rfl
  | cons rule rest ih => rw [List.foldl_cons, ih, mark_filled]

theorem valuesAt_foldl_filled (hrules : (rules.map AestheticRule.name).Nodup) (name : String) :
    (rules.foldl (filled shared) layer).valuesAt name
      = (rules.find? fun r => r.name = name).elim (layer.valuesAt name) fun rule =>
          rule.settled shared (layer.valuesAt name) := by
  induction rules generalizing layer with
  | nil => rfl
  | cons rule rest ih =>
      rcases List.nodup_cons.mp hrules with ⟨hrule, hrest⟩
      rw [List.foldl_cons, ih hrest]
      by_cases hname : name = rule.name
      · subst hname
        rw [AestheticRule.find?_name_eq_none.mpr hrule, List.find?_cons_of_pos (by simp)]
        exact valuesAt_filled_self
      · rw [List.find?_cons_of_neg (by simpa using Ne.symm hname), valuesAt_filled_of_ne hname]

theorem find?_aesthetics_foldl_filled (hrules : (rules.map AestheticRule.name).Nodup)
    (name : String) :
    (rules.foldl (filled shared) layer).aesthetics.find? name
      = (layer.aesthetics.find? name).or
          (if layer.properties.contains name then none
            else (rules.find? fun r => r.name = name).bind (AestheticRule.inherited? shared)) := by
  refine (congrArg Prod.fst (valuesAt_foldl_filled hrules name)).trans ?_
  cases rules.find? fun r => r.name = name with
  | none => simp [valuesAt]
  | some rule => rfl

theorem find?_properties_foldl_filled (hrules : (rules.map AestheticRule.name).Nodup)
    (name : String) :
    (rules.foldl (filled shared) layer).properties.find? name
      = (layer.properties.find? name).or
          (if layer.aesthetics.contains name then none
            else (rules.find? fun r => r.name = name).bind (AestheticRule.replaced? shared)) := by
  refine (congrArg Prod.snd (valuesAt_foldl_filled hrules name)).trans ?_
  cases rules.find? fun r => r.name = name with
  | none => simp [valuesAt]
  | some rule => rfl

end ResolvedLayer

/-!
## Layers
-/

namespace Layer

variable {layer : Layer num} {frame : Frame num} {own shared : Table (Series num)}
  {resolved : ResolvedLayer num}

theorem ownSeries_eq (layer : Layer num) (frame : Frame num) :
    layer.ownSeries frame
      = (layer.mapping.getD Table.empty).evaluate (layer.frame.getD frame) := by
  unfold ownSeries
  cases layer.mapping with
  | none => rfl
  | some m => rfl

def started (layer : Layer num) (own : Table (Series num)) : ResolvedLayer num where
  mark := layer.mark
  aesthetics := own
  properties := layer.properties

variable [Scalar num]

theorem exists_ownSeries_of_resolve_eq_ok (h : layer.resolve frame shared = .ok resolved) :
    exists own, layer.ownSeries frame = .ok own := by
  rcases bind_eq_ok.mp h with ⟨own, hown, _⟩
  exact ⟨own, hown⟩

theorem resolve_of_ownSeries_eq_error {e : PlotError num} (h : layer.ownSeries frame = .error e)
    (shared : Table (Series num)) : layer.resolve frame shared = .error e := by
  unfold resolve
  rw [h]
  rfl

theorem resolve_of_ownSeries_eq_ok (h : layer.ownSeries frame = .ok own)
    (shared : Table (Series num)) :
    layer.resolve frame shared
      = match layer.mark.rules.find? ((layer.started own).lacks shared) with
        | some rule => throw (.missingAesthetic layer.mark rule.name)
        | none =>
            pure (layer.mark.rules.foldl (ResolvedLayer.filled shared) (layer.started own)) := by
  unfold resolve
  rw [h]
  exact ResolvedLayer.foldlM_fill_eq shared (layer.started own) layer.mark.nodup_names_rules

theorem resolve_eq_error_iff (h : layer.ownSeries frame = .ok own) {e : PlotError num} :
    layer.resolve frame shared = .error e ↔
      exists rule, layer.mark.rules.find? ((layer.started own).lacks shared) = some rule ∧
        e = .missingAesthetic layer.mark rule.name := by
  rw [resolve_of_ownSeries_eq_ok h]
  cases layer.mark.rules.find? ((layer.started own).lacks shared) with
  | none =>
      constructor
      · intro herror
        cases herror
      · intro herror
        rcases herror with ⟨rule, hrule, _⟩
        cases hrule
  | some rule =>
      constructor
      · intro herror
        cases herror
        exact ⟨rule, rfl, rfl⟩
      · intro herror
        rcases herror with ⟨rule', hrule, rfl⟩
        cases hrule
        rfl

theorem resolve_eq_ok_iff (h : layer.ownSeries frame = .ok own) :
    layer.resolve frame shared = .ok resolved ↔
      (forall rule, rule ∈ layer.mark.rules -> (layer.started own).lacks shared rule = false) ∧
        layer.mark.rules.foldl (ResolvedLayer.filled shared) (layer.started own) = resolved := by
  rw [resolve_of_ownSeries_eq_ok h]
  cases hfind : layer.mark.rules.find? ((layer.started own).lacks shared) with
  | none =>
      have hall := List.find?_eq_none.mp hfind
      rw [pure_eq_ok]
      constructor
      · intro heq
        exact ⟨fun rule hrule => Bool.not_eq_true _ ▸ hall rule hrule, heq⟩
      · exact And.right
  | some rule =>
      refine iff_of_false throw_ne_ok ?_
      intro hok
      have hlacks := List.find?_some hfind
      rw [hok.1 rule (List.mem_of_find?_eq_some hfind)] at hlacks
      cases hlacks

theorem find?_aesthetics_of_resolve_eq_ok (h : layer.ownSeries frame = .ok own)
    (hresolve : layer.resolve frame shared = .ok resolved) (name : String) :
    resolved.aesthetics.find? name
      = (own.find? name).or
          (if layer.properties.contains name then none
            else (layer.mark.rule? name).bind (AestheticRule.inherited? shared)) := by
  rcases (resolve_eq_ok_iff h).mp hresolve with ⟨_, rfl⟩
  exact ResolvedLayer.find?_aesthetics_foldl_filled layer.mark.nodup_names_rules name

theorem find?_properties_of_resolve_eq_ok (h : layer.ownSeries frame = .ok own)
    (hresolve : layer.resolve frame shared = .ok resolved) (name : String) :
    resolved.properties.find? name
      = (layer.properties.find? name).or
          (if own.contains name then none
            else (layer.mark.rule? name).bind (AestheticRule.replaced? shared)) := by
  rcases (resolve_eq_ok_iff h).mp hresolve with ⟨_, rfl⟩
  exact ResolvedLayer.find?_properties_foldl_filled layer.mark.nodup_names_rules name

/-!
## What a layer is resolved to
-/

/-- A resolved layer keeps its series and properties, each further aesthetic of its mark has the
shared series or else the fallback, and nothing else is there. -/
structure Settles (layer : Layer num) (own shared : Table (Series num))
    (resolved : ResolvedLayer num) : Prop where
  mark : resolved.mark = layer.mark
  keeps_series : forall name s, own.find? name = some s -> resolved.aesthetics.find? name = some s
  keeps_properties : forall name c, layer.properties.find? name = some c ->
    resolved.properties.find? name = some c
  inherits : forall rule : AestheticRule num, rule ∈ layer.mark.rules ->
    own.find? rule.name = none -> layer.properties.find? rule.name = none ->
      forall s, shared.find? rule.name = some s ->
        resolved.aesthetics.find? rule.name = some s ∧ resolved.properties.find? rule.name = none
  falls_back : forall rule : AestheticRule num, rule ∈ layer.mark.rules ->
    own.find? rule.name = none -> layer.properties.find? rule.name = none ->
      shared.find? rule.name = none ->
      resolved.aesthetics.find? rule.name = none ∧
        exists c, rule.fallback = some c ∧ resolved.properties.find? rule.name = some c
  series_from : forall name s, resolved.aesthetics.find? name = some s ->
    own.find? name = some s ∨
      own.find? name = none ∧ layer.properties.find? name = none ∧ shared.find? name = some s ∧
        exists rule : AestheticRule num, rule ∈ layer.mark.rules ∧ rule.name = name
  properties_from : forall name c, resolved.properties.find? name = some c ->
    layer.properties.find? name = some c ∨
      own.find? name = none ∧ layer.properties.find? name = none ∧ shared.find? name = none ∧
        exists rule, rule ∈ layer.mark.rules ∧ rule.name = name ∧ rule.fallback = some c

theorem settles_of_resolve_eq_ok (h : layer.ownSeries frame = .ok own)
    (hresolve : layer.resolve frame shared = .ok resolved) :
    layer.Settles own shared resolved where
  mark := by
    rcases (resolve_eq_ok_iff h).mp hresolve with ⟨_, rfl⟩
    exact ResolvedLayer.mark_foldl_filled
  keeps_series := by
    intro name s hs
    rw [find?_aesthetics_of_resolve_eq_ok h hresolve, hs, Option.some_or]
  keeps_properties := by
    intro name c hc
    rw [find?_properties_of_resolve_eq_ok h hresolve, hc, Option.some_or]
  inherits := by
    intro rule hrule hown hproperty s hs
    have hfind := Mark.rule?_eq_some_iff.mpr ⟨hrule, rfl⟩
    have hinherited := (Mark.inherited?_of_mem_rules hrule shared).trans hs
    rw [find?_aesthetics_of_resolve_eq_ok h hresolve, find?_properties_of_resolve_eq_ok h hresolve,
      hown, hproperty, hfind]
    simp [Table.contains, hown, hproperty, hinherited, AestheticRule.replaced?]
  falls_back := by
    intro rule hrule hown hproperty hshared
    have hfind := Mark.rule?_eq_some_iff.mpr ⟨hrule, rfl⟩
    have hinherited := (Mark.inherited?_of_mem_rules hrule shared).trans hshared
    have hlacks := ((resolve_eq_ok_iff h).mp hresolve).1 rule hrule
    have hrequired : rule.required = false := by
      simpa [ResolvedLayer.lacks, started, Table.contains, hown, hproperty, hinherited] using hlacks
    rcases (Mark.required_or_exists_fallback_of_mem_rules hrule).resolve_left
      (by rw [hrequired]; exact Bool.false_ne_true) with ⟨c, hc⟩
    rw [find?_aesthetics_of_resolve_eq_ok h hresolve, find?_properties_of_resolve_eq_ok h hresolve,
      hown, hproperty, hfind]
    simp [Table.contains, hown, hproperty, hinherited, hc, AestheticRule.replaced?]
  series_from := by
    intro name s hs
    rw [find?_aesthetics_of_resolve_eq_ok h hresolve] at hs
    cases hown : own.find? name with
    | some s' =>
        rw [hown, Option.some_or] at hs
        exact Or.inl hs
    | none =>
        rw [hown, Option.none_or] at hs
        split at hs
        next => cases hs
        next hproperty =>
            rcases Option.bind_eq_some_iff.mp hs with ⟨rule, hrule, hinherited⟩
            rcases Mark.rule?_eq_some_iff.mp hrule with ⟨hmem, rfl⟩
            rw [Mark.inherited?_of_mem_rules hmem] at hinherited
            exact Or.inr ⟨rfl, Table.not_contains_iff.mp hproperty, hinherited, rule, hmem, rfl⟩
  properties_from := by
    intro name c hc
    rw [find?_properties_of_resolve_eq_ok h hresolve] at hc
    cases hproperty : layer.properties.find? name with
    | some c' =>
        rw [hproperty, Option.some_or] at hc
        exact Or.inl hc
    | none =>
        rw [hproperty, Option.none_or] at hc
        split at hc
        next => cases hc
        next hown =>
            rcases Option.bind_eq_some_iff.mp hc with ⟨rule, hrule, hreplaced⟩
            rcases Mark.rule?_eq_some_iff.mp hrule with ⟨hmem, rfl⟩
            unfold AestheticRule.replaced? at hreplaced
            rw [Mark.inherited?_of_mem_rules hmem] at hreplaced
            split at hreplaced
            next => cases hreplaced
            next hshared =>
                exact Or.inr ⟨Table.not_contains_iff.mp hown, rfl,
                  Option.not_isSome_iff_eq_none.mp hshared, rule, hmem, rfl, hreplaced⟩

theorem mark_of_resolve_eq_ok (hresolve : layer.resolve frame shared = .ok resolved) :
    resolved.mark = layer.mark := by
  rcases exists_ownSeries_of_resolve_eq_ok hresolve with ⟨own, hown⟩
  exact (settles_of_resolve_eq_ok hown hresolve).mark

/-- A layer is refused with the error of its own mapping, over its own data or else over that of the
plot.  Otherwise it is refused for the first required aesthetic that is neither among its own series
and properties nor shared, and for nothing else. -/
theorem resolve_cases (layer : Layer num) (frame : Frame num) (shared : Table (Series num)) :
    (forall e, (layer.mapping.getD Table.empty).evaluate (layer.frame.getD frame) = .error e ->
      layer.resolve frame shared = .error e) ∧
    forall own, (layer.mapping.getD Table.empty).evaluate (layer.frame.getD frame) = .ok own ->
      (forall e, layer.resolve frame shared = .error e ↔
        exists rule : AestheticRule num,
          (layer.mark.rules.find? fun r => r.required && !own.contains r.name
            && !layer.properties.contains r.name && !shared.contains r.name) = some rule ∧
          e = .missingAesthetic layer.mark rule.name) ∧
      forall resolved, layer.resolve frame shared = .ok resolved ->
        layer.Settles own shared resolved := by
  rw [← ownSeries_eq]
  refine ⟨fun e h => resolve_of_ownSeries_eq_error h shared, ?_⟩
  intro own hown
  refine ⟨?_, fun resolved => settles_of_resolve_eq_ok hown⟩
  intro e
  have hlacks : forall rule, rule ∈ layer.mark.rules -> (layer.started own).lacks shared rule
      = (rule.required && !own.contains rule.name && !layer.properties.contains rule.name
          && !shared.contains rule.name) := by
    intro rule hrule
    unfold ResolvedLayer.lacks
    rw [Mark.inherited?_of_mem_rules hrule, ← Option.not_isSome]
    rfl
  rw [resolve_eq_error_iff hown, List.find?_congr hlacks]

end Layer
end LayeredPlot
