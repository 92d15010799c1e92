import LayeredPlot.Proofs.Plot.Merging

/-!
# Conflicts between parts of plots

Two mappings, and two tables of scale declarations, can be merged in either order: what is merged is
the same, and so is the conflict that is reported when they cannot be merged.  It is the one of the
least name for which there is one.
-/

namespace LayeredPlot

variable {num : Type}

/-!
## Declarations of one scale
-/

namespace ScaleDeclaration

variable {scale : String} {d e : ScaleDeclaration num} {fault : PlotError num}

/-- Two declarations of a scale conflict if they are not both continuous, and otherwise over the
first field that both of them give. -/
inductive Conflict (scale : String) (d e : ScaleDeclaration num) : PlotError num -> Prop
  | discrete (hd : ¬ d.IsContinuous) (he : ¬ e.IsContinuous) :
      Conflict scale d e (.unimplemented .mergingDiscreteScales)
  | kinds (h : d.IsContinuous ↔ ¬ e.IsContinuous) : Conflict scale d e (.scaleKindMismatch scale)
  | limits (hd : d.IsContinuous) (he : e.IsContinuous)
      (h : d.limits? ≠ none ∧ e.limits? ≠ none) :
      Conflict scale d e (.duplicateScaleField scale .limits)
  | breaks (hd : d.IsContinuous) (he : e.IsContinuous)
      (hlimits : d.limits? = none ∨ e.limits? = none) (h : d.breaks? ≠ none ∧ e.breaks? ≠ none) :
      Conflict scale d e (.duplicateScaleField scale .breaks)
  | labels (hd : d.IsContinuous) (he : e.IsContinuous)
      (hlimits : d.limits? = none ∨ e.limits? = none)
      (hbreaks : d.breaks? = none ∨ e.breaks? = none) (h : d.labels? ≠ none ∧ e.labels? ≠ none) :
      Conflict scale d e (.duplicateScaleField scale .labels)

theorem mergeField_eq_error {part : Type} {field : ScaleField} {p q : Option part} :
    (mergeField scale field p q : Except (PlotError num) (Option part)) = .error fault ↔
      (p ≠ none ∧ q ≠ none) ∧ .duplicateScaleField scale field = fault := by
  cases p with
  | none =>
      cases q with
      | none => simp [mergeField, pure, Except.pure]
      | some y => simp [mergeField, pure, Except.pure]
  | some x =>
      cases q with
      | none => simp [mergeField, pure, Except.pure]
      | some y => simp [mergeField, throw, throwThe, MonadExceptOf.throw]

theorem conflict_iff_of_kinds (hkinds : d.IsContinuous ↔ ¬ e.IsContinuous) :
    Conflict scale d e fault ↔ .scaleKindMismatch scale = fault := by
  constructor
  · intro h
    cases h with
    | discrete hd he => exact absurd (hkinds.mpr he) hd
    | kinds _ => rfl
    | limits hd he _ => exact absurd he (hkinds.mp hd)
    | breaks hd he _ _ => exact absurd he (hkinds.mp hd)
    | labels hd he _ _ _ => exact absurd he (hkinds.mp hd)
  · intro h
    exact h ▸ .kinds hkinds

theorem conflict_iff_of_discrete (hd : ¬ d.IsContinuous) (he : ¬ e.IsContinuous) :
    Conflict scale d e fault ↔ .unimplemented .mergingDiscreteScales = fault := by
  constructor
  · intro h
    cases h with
    | discrete _ _ => rfl
    | kinds hkinds => exact absurd (hkinds.mpr he) hd
    | limits hd' _ _ => exact absurd hd' hd
    | breaks hd' _ _ _ => exact absurd hd' hd
    | labels hd' _ _ _ _ => exact absurd hd' hd
  · intro h
    exact h ▸ .discrete hd he

theorem merge_eq_error : d.merge scale e = .error fault ↔ Conflict scale d e fault := by
  cases d with
  | discrete d =>
      cases e with
      | discrete e =>
          refine (iff_of_eq (Except.error.injEq _ _)).trans (conflict_iff_of_discrete ?_ ?_).symm
          · exact id
          · exact id
      | continuous e =>
          refine (iff_of_eq (Except.error.injEq _ _)).trans (conflict_iff_of_kinds ?_).symm
          exact iff_of_false id (not_not_intro trivial)
  | continuous d =>
      cases e with
      | discrete e =>
          refine (iff_of_eq (Except.error.injEq _ _)).trans (conflict_iff_of_kinds ?_).symm
          exact iff_of_true trivial id
      | continuous e =>
          change (_ >>= _) = _ ↔ _
          simp only [bind_eq_error, mergeField_eq_error, mergeField_eq_ok]
          constructor
          · intro h
            rcases h with ⟨h, rfl⟩ | ⟨_, ⟨hlimits, _⟩, h⟩
            · exact .limits trivial trivial h
            · rcases h with ⟨h, rfl⟩ | ⟨_, ⟨hbreaks, _⟩, h⟩
              · exact .breaks trivial trivial hlimits h
              · rcases h with ⟨h, rfl⟩ | ⟨_, _, h⟩
                · exact .labels trivial trivial hlimits hbreaks h
                · cases h
          · intro h
            cases h with
            | discrete hd _ => exact absurd trivial hd
            | kinds h => exact absurd trivial (h.mp trivial)
            | limits _ _ h => exact Or.inl ⟨h, rfl⟩
            | breaks _ _ hlimits h => exact Or.inr ⟨_, ⟨hlimits, rfl⟩, Or.inl ⟨h, rfl⟩⟩
            | labels _ _ hlimits hbreaks h =>
                exact Or.inr ⟨_, ⟨hlimits, rfl⟩, Or.inr ⟨_, ⟨hbreaks, rfl⟩, Or.inl ⟨h, rfl⟩⟩⟩

theorem mergeField_comm {part : Type} (scale : String) (field : ScaleField)
    (p q : Option part) :
    (mergeField scale field p q : Except (PlotError num) (Option part))
      = mergeField scale field q p := by
  cases p with
  | none => cases q <;> rfl
  | some x => cases q <;> rfl

theorem merge_comm (scale : String) (d e : ScaleDeclaration num) :
    d.merge scale e = e.merge scale d := by
  cases d with
  | discrete d => cases e <;> rfl
  | continuous d =>
      cases e with
      | discrete e => rfl
      | continuous e =>
          simp only [merge]
          rw [mergeField_comm scale .limits d.limits, mergeField_comm scale .breaks d.breaks,
            mergeField_comm scale .labels d.labels]

theorem or_comm_of_eq_none {part : Type} {p q : Option part} (h : p = none ∨ q = none) :
    p.or q = q.or p := by
  rcases h with rfl | rfl
  · rw [Option.none_or, Option.or_none]
  · rw [Option.none_or, Option.or_none]

theorem Joinable.join_comm (h : d.Joinable e) : d.join e = e.join d := by
  unfold join
  rw [or_comm_of_eq_none h.limits, or_comm_of_eq_none h.breaks, or_comm_of_eq_none h.labels]

theorem Conflict.symm (h : Conflict scale d e fault) : Conflict scale e d fault := by
  rw [← merge_eq_error] at h ⊢
  exact (merge_comm scale e d).trans h

end ScaleDeclaration

/-!
## Tables of scale declarations
-/

namespace ScaleDeclarations

variable {first second : ScaleDeclarations num} {fault : PlotError num}

theorem mergeEntry_eq_error_iff {merged : ScaleDeclarations num}
    {entry : String × ScaleDeclaration num} :
    mergeEntry first merged entry = .error fault ↔
      exists d, first.find? entry.1 = some d ∧ d.Conflict entry.1 entry.2 fault := by
  rw [mergeEntry_eq, map_eq_error, mergedEntry]
  cases first.find? entry.1 with
  | none => simp [pure, Except.pure]
  | some d => simp [ScaleDeclaration.merge_eq_error]

theorem merge_eq_error_iff :
    first.merge second = .error fault ↔
      exists name d e, first.find? name = some d ∧ second.find? name = some e ∧
        d.Conflict name e fault ∧
        forall other d' e' fault', other < name -> first.find? other = some d' ->
          second.find? other = some e' -> ¬ d'.Conflict other e' fault' := by
  unfold merge
  rw [Table.foldlM_entries_eq_error_iff (fun name e fault =>
    exists d, first.find? name = some d ∧ d.Conflict name e fault)
    fun _ _ _ => mergeEntry_eq_error_iff]
  constructor
  · intro h
    rcases h with ⟨name, e, hfirst, d, hd, hconflict⟩
    refine ⟨name, d, e, hd, hfirst.found, hconflict, ?_⟩
    intro other d' e' fault' hlt hd' he' hconflict'
    exact hfirst.least other e' hlt he' ⟨fault', d', hd', hconflict'⟩
  · intro h
    rcases h with ⟨name, d, e, hd, he, hconflict, hleast⟩
    refine ⟨name, e, ⟨he, ⟨fault, d, hd, hconflict⟩, ?_⟩, d, hd, hconflict⟩
    intro other e' hlt he' hfault
    rcases hfault with ⟨fault', d', hd', hconflict'⟩
    exact hleast other d' e' fault' hlt hd' he' hconflict'

theorem merge_eq_error_swap (h : first.merge second = .error fault) :
    second.merge first = .error fault := by
  rcases merge_eq_error_iff.mp h with ⟨name, d, e, hd, he, hconflict, hleast⟩
  apply merge_eq_error_iff.mpr
  refine ⟨name, e, d, he, hd, hconflict.symm, ?_⟩
  intro other e' d' fault' hlt he' hd' hconflict'
  exact hleast other d' e' fault' hlt hd' he' hconflict'.symm

theorem find?_eq_of_merge_eq_ok_swap {merged swapped : ScaleDeclarations num}
    (h : first.merge second = .ok merged) (hswap : second.merge first = .ok swapped)
    (name : String) : merged.find? name = swapped.find? name := by
  have hname := find?_of_merge_eq_ok h name
  have hname' := find?_of_merge_eq_ok hswap name
  cases hd : first.find? name with
  | none =>
      rw [hd] at hname hname'
      cases he : second.find? name with
      | none =>
          rw [he] at hname hname'
          exact Eq.trans hname (Eq.symm hname')
      | some e =>
          rw [he] at hname hname'
          exact Eq.trans hname (Eq.symm hname')
  | some d =>
      rw [hd] at hname hname'
      cases he : second.find? name with
      | none =>
          rw [he] at hname hname'
          exact Eq.trans hname (Eq.symm hname')
      | some e =>
          rw [he] at hname hname'
          rw [And.right hname, And.right hname', hname.1.join_comm]

theorem merge_comm (first second : ScaleDeclarations num) :
    first.merge second = second.merge first := by
  refine eq_of_error_iff (fun _ => ⟨merge_eq_error_swap, merge_eq_error_swap⟩) ?_
  intro merged swapped hmerge hswap
  exact Table.ext_find? (find?_eq_of_merge_eq_ok_swap hmerge hswap)

end ScaleDeclarations

/-!
## Mappings
-/

namespace Mapping

variable {m n : Mapping num} {fault : PlotError num}

theorem merge_eq_error_iff :
    m.merge n = .error fault ↔
      exists name, fault = .duplicateAesthetic name ∧ m.contains name = true ∧
        n.contains name = true ∧
        forall other, other < name -> ¬ (m.contains other = true ∧ n.contains other = true) := by
  have hfind : m.names.find? n.contains
      = (m.entries.find? fun e => n.contains e.1).map Prod.fst := by
    unfold Table.names
    rw [List.find?_map]
    rfl
  unfold merge
  rw [hfind]
  constructor
  · intro h
    cases hshared : m.entries.find? fun e => n.contains e.1 with
    | none =>
        rw [hshared] at h
        cases h
    | some entry =>
        rw [hshared] at h
        cases h
        rcases entry with ⟨name, source⟩
        have hfirst := Table.find?_entries_eq_some_iff.mp hshared
        refine ⟨name, rfl, Table.contains_iff.mpr ⟨source, hfirst.found⟩, hfirst.holds, ?_⟩
        intro other hlt hboth
        rcases Table.contains_iff.mp hboth.1 with ⟨source', hsource'⟩
        exact hfirst.least other source' hlt hsource' hboth.2
  · intro h
    rcases h with ⟨name, rfl, hm, hn, hleast⟩
    rcases Table.contains_iff.mp hm with ⟨source, hsource⟩
    have hfirst : m.IsFirst (fun other _ => n.contains other = true) name source := by
      refine ⟨hsource, hn, ?_⟩
      intro other source' hlt hsource' hother
      exact hleast other hlt ⟨Table.contains_iff.mpr ⟨source', hsource'⟩, hother⟩
    rw [Table.find?_entries_eq_some_iff.mpr hfirst]
    rfl

theorem merge_eq_error_swap (h : m.merge n = .error fault) : n.merge m = .error fault := by
  rcases merge_eq_error_iff.mp h with ⟨name, hfault, hm, hn, hleast⟩
  apply merge_eq_error_iff.mpr
  exact ⟨name, hfault, hn, hm, fun other hlt hboth => hleast other hlt hboth.symm⟩

theorem merge_comm (m n : Mapping num) : m.merge n = n.merge m := by
  refine eq_of_error_iff (fun _ => ⟨merge_eq_error_swap, merge_eq_error_swap⟩) ?_
  intro merged swapped hmerge hswap
  refine Table.ext_find? fun name => Option.ext fun s => ?_
  rw [find?_of_merge_eq_ok_iff hmerge, find?_of_merge_eq_ok_iff hswap, or_comm]

end Mapping

/-!
## Both kinds of parts
-/

/-- Scale declarations and mappings are merged in either order to the same table or to the same
error.  That of declarations is the conflict of the least name in both tables whose declarations
have one, and that of mappings is the least name in both of them. -/
theorem merges_commute :
    (forall first second : ScaleDeclarations num,
      first.merge second = second.merge first ∧
      forall fault, first.merge second = .error fault ↔
        exists name d e, first.find? name = some d ∧ second.find? name = some e ∧
          d.Conflict name e fault ∧
          forall other d' e' fault', other < name -> first.find? other = some d' ->
            second.find? other = some e' -> ¬ d'.Conflict other e' fault') ∧
    forall m n : Mapping num,
      m.merge n = n.merge m ∧
      forall fault, m.merge n = .error fault ↔
        exists name, fault = .duplicateAesthetic name ∧ m.contains name = true ∧
          n.contains name = true ∧
          forall other, other < name -> ¬ (m.contains other = true ∧ n.contains other = true) :=
  ⟨fun first second => ⟨ScaleDeclarations.merge_comm first second,
      fun _ => ScaleDeclarations.merge_eq_error_iff⟩,
    fun m n => ⟨Mapping.merge_comm m n, fun _ => Mapping.merge_eq_error_iff⟩⟩

end LayeredPlot
