import LayeredPlot.Plot.Basic
import LayeredPlot.Proofs.Table

/-!
# Merging mappings and scale declarations

Two mappings, and two tables of scale declarations, are merged name by name.
-/

namespace LayeredPlot

variable {num : Type}

/-!
## Mappings
-/

namespace Mapping

theorem exists_merge_eq_ok {m n : Mapping num}
    (h : forall name, m.find? name = none ∨ n.find? name = none) :
    exists merged, m.merge n = .ok merged := by
  have hshared : m.names.find? n.contains = none := by
    rw [List.find?_eq_none]
    intro name hname hn
    rcases Table.mem_names_iff.mp hname with ⟨s, hs⟩
    rcases Table.contains_iff.mp hn with ⟨s', hs'⟩
    rcases h name with h | h
    · rw [h] at hs
      cases hs
    · rw [h] at hs'
      cases hs'
  exists m.insertAll n.entries
  unfold merge
  rw [hshared]
  rfl

theorem find?_of_merge_eq_ok {m n merged : Mapping num} (h : m.merge n = .ok merged)
    (name : String) :
    (m.find? name = none ∨ n.find? name = none) ∧
      merged.find? name = (m.find? name).or (n.find? name) := by
  unfold merge at h
  split at h
  · cases h
  · rename_i hshared
    cases pure_eq_ok.mp h
    rw [Table.find?_insertAll]
    cases hm : m.find? name with
    | none =>
        constructor
        · exact Or.inl rfl
        · rw [Option.or_none, Option.none_or]
    | some s =>
        have hmem : name ∈ m.names := Table.mem_names_iff.mpr ⟨s, hm⟩
        have hn := Table.not_contains_iff.mp (List.find?_eq_none.mp hshared name hmem)
        rw [hn]
        exact ⟨Or.inr rfl, rfl⟩

theorem find?_of_merge_eq_ok_iff {m n merged : Mapping num} (h : m.merge n = .ok merged)
    (name : String) (s : Source num) :
    merged.find? name = some s ↔ m.find? name = some s ∨ n.find? name = some s := by
  rcases find?_of_merge_eq_ok h name with ⟨hdisjoint, hmerged⟩
  rw [hmerged]
  rcases hdisjoint with hm | hn
  · simp [hm]
  · simp [hn]

end Mapping

/-!
## Scale declarations
-/

namespace ScaleDeclaration

def IsContinuous : ScaleDeclaration num -> Prop
  | continuous _ => True
  | discrete _ => False

def limits? : ScaleDeclaration num -> Option (Limits num)
  | continuous d => d.limits
  | discrete _ => none

def breaks? : ScaleDeclaration num -> Option (List num)
  | continuous d => d.breaks
  | discrete d => d.breaks

def labels? : ScaleDeclaration num -> Option (List String)
  | continuous d => d.labels
  | discrete d => d.labels

theorem mergeField_eq_ok {part : Type} {scale : String} {field : ScaleField}
    {p q r : Option part} :
    (mergeField scale field p q : Except (PlotError num) (Option part)) = .ok r ↔
      (p = none ∨ q = none) ∧ p.or q = r := by
  cases p with
  | none =>
      cases q with
      | none => simp [mergeField, pure_eq_ok]
      | some y => simp [mergeField, pure_eq_ok]
  | some x =>
      cases q with
      | none => simp [mergeField, pure_eq_ok]
      | some y => simp [mergeField, throw_ne_ok]

structure Joinable (d e : ScaleDeclaration num) : Prop where
  left : d.IsContinuous
  right : e.IsContinuous
  limits : d.limits? = none ∨ e.limits? = none
  breaks : d.breaks? = none ∨ e.breaks? = none
  labels : d.labels? = none ∨ e.labels? = none

def join (d e : ScaleDeclaration num) : ScaleDeclaration num :=
  .continuous
    { limits := d.limits?.or e.limits?
      breaks := d.breaks?.or e.breaks?
      labels := d.labels?.or e.labels? }

theorem merge_eq_ok {scale : String} {d e merged : ScaleDeclaration num} :
    d.merge scale e = .ok merged ↔ d.Joinable e ∧ d.join e = merged := by
  cases d with
  | discrete d =>
      constructor
      · intro h
        cases e <;> exact absurd h throw_ne_ok
      · intro h
        exact absurd h.1.left id
  | continuous d =>
      cases e with
      | discrete e =>
          constructor
          · intro h
            exact absurd h throw_ne_ok
          · intro h
            exact absurd h.1.right id
      | continuous e =>
          change (_ >>= _) = _ ↔ _
          constructor
          · intro h
            rcases bind_eq_ok.mp h with ⟨limits, hlimits?, h⟩
            rcases bind_eq_ok.mp h with ⟨breaks, hbreaks?, h⟩
            rcases bind_eq_ok.mp h with ⟨labels, hlabels?, h⟩
            rcases mergeField_eq_ok.mp hlimits? with ⟨hlimits, rfl⟩
            rcases mergeField_eq_ok.mp hbreaks? with ⟨hbreaks, rfl⟩
            rcases mergeField_eq_ok.mp hlabels? with ⟨hlabels, rfl⟩
            exact ⟨⟨trivial, trivial, hlimits, hbreaks, hlabels⟩, pure_eq_ok.mp h⟩
          · intro h
            rcases h with ⟨h, rfl⟩
            apply bind_eq_ok.mpr
            refine ⟨_, mergeField_eq_ok.mpr ⟨h.limits, rfl⟩, ?_⟩
            apply bind_eq_ok.mpr
            refine ⟨_, mergeField_eq_ok.mpr ⟨h.breaks, rfl⟩, ?_⟩
            apply bind_eq_ok.mpr
            exact ⟨_, mergeField_eq_ok.mpr ⟨h.labels, rfl⟩, rfl⟩

end ScaleDeclaration

namespace ScaleDeclarations

variable {first second merged : ScaleDeclarations num}

def mergedEntry (first : ScaleDeclarations num) (entry : String × ScaleDeclaration num) :
    Except (PlotError num) (ScaleDeclaration num) :=
  match first.find? entry.1 with
  | none => pure entry.2
  | some d => d.merge entry.1 entry.2

theorem mergeEntry_eq (first merged : ScaleDeclarations num)
    (entry : String × ScaleDeclaration num) :
    mergeEntry first merged entry = merged.insert entry.1 <$> mergedEntry first entry := by
  unfold mergeEntry mergedEntry
  cases first.find? entry.1 with
  | none => rfl
  | some d => rfl

theorem exists_merge_eq_ok
    (h : forall name d e, first.find? name = some d -> second.find? name = some e ->
      d.Joinable e) :
    exists merged, first.merge second = .ok merged := by
  unfold merge
  apply Table.exists_foldlM_eq_ok fun t e _ => mergeEntry_eq first t e
  intro entry hmem
  rcases entry with ⟨name, e⟩
  have he := Table.mem_entries_iff.mp hmem
  cases hd : first.find? name with
  | none => exact ⟨e, by simp [mergedEntry, hd, pure_eq_ok]⟩
  | some d =>
      exists d.join e
      unfold mergedEntry
      rw [hd]
      exact ScaleDeclaration.merge_eq_ok.mpr ⟨h name d e hd he, rfl⟩

theorem find?_of_merge_eq_ok (h : first.merge second = .ok merged) (name : String) :
    match first.find? name, second.find? name with
    | some d, some e => d.Joinable e ∧ merged.find? name = some (d.join e)
    | d, none => merged.find? name = d
    | none, e => merged.find? name = e := by
  have hname := Table.find?_of_foldlM_eq_ok (fun t e _ => mergeEntry_eq first t e) h name
  cases he : second.find? name with
  | none =>
      rw [he] at hname
      cases hd : first.find? name with
      | none => exact hname.trans hd
      | some d => exact hname.trans hd
  | some e =>
      rw [he] at hname
      rcases hname with ⟨d', hd', hfind⟩
      unfold mergedEntry at hd'
      cases hd : first.find? name with
      | none =>
          rw [hd] at hd'
          cases pure_eq_ok.mp hd'
          exact hfind
      | some d =>
          rw [hd] at hd'
          rcases ScaleDeclaration.merge_eq_ok.mp hd' with ⟨hjoinable, rfl⟩
          exact ⟨hjoinable, hfind⟩

end ScaleDeclarations
end LayeredPlot
