import LayeredPlot.Data.Frame
import LayeredPlot.Number.Exact
import LayeredPlot.Proofs.Outcome
import Mathlib.Data.List.Nodup

/-!
# Frames that are built column by column

However a frame is built, its columns have different names, one length and one type
each.  A column is refused for the first of three reasons that applies, and a refused one
leaves the frame as it was.
-/

namespace LayeredPlot

variable {num : Type}

/-!
## Types of cells
-/

namespace Cell

def presentTypes (cells : List (Cell num)) : List CellType :=
  (cells.map type).filter fun t => t ≠ .missing

theorem mem_presentTypes_iff {cells : List (Cell num)} {t : CellType} :
    t ∈ presentTypes cells ↔ t ≠ .missing ∧ exists c, c ∈ cells ∧ c.type = t := by
  simp only [presentTypes, List.mem_filter, List.mem_map, decide_eq_true_eq]
  exact and_comm

theorem presentTypes_cons_of_missing {c : Cell num} (h : c.type = .missing)
    (cells : List (Cell num)) : presentTypes (c :: cells) = presentTypes cells := by
  simp [presentTypes, h]

theorem presentTypes_cons_of_ne_missing {c : Cell num} (h : c.type ≠ .missing)
    (cells : List (Cell num)) : presentTypes (c :: cells) = c.type :: presentTypes cells := by
  simp [presentTypes, h]

def Mix (cells : List (Cell num)) : Prop :=
  exists t u, t ∈ presentTypes cells ∧ u ∈ presentTypes cells ∧ t ≠ u

def commonType (cells : List (Cell num)) : CellType :=
  (presentTypes cells).head?.getD .missing

theorem commonType_cons_of_missing {c : Cell num} (h : c.type = .missing)
    (cells : List (Cell num)) : commonType (c :: cells) = commonType cells := by
  rw [commonType, presentTypes_cons_of_missing h, commonType]

theorem commonType_cons_of_ne_missing {c : Cell num} (h : c.type ≠ .missing)
    (cells : List (Cell num)) : commonType (c :: cells) = c.type := by
  rw [commonType, presentTypes_cons_of_ne_missing h, List.head?_cons, Option.getD_some]

theorem eq_commonType_of_mem {cells : List (Cell num)} (h : ¬ Mix cells) {t : CellType}
    (ht : t ∈ presentTypes cells) : t = commonType cells := by
  unfold commonType
  cases htypes : presentTypes cells with
  | nil =>
      rw [htypes] at ht
      cases ht
  | cons first rest =>
      have hfirst : first ∈ presentTypes cells := htypes ▸ List.mem_cons_self
      exact not_not.mp fun hne => h ⟨t, first, ht, hfirst, hne⟩

end Cell

namespace CellType

open Cell

variable {cells : List (Cell num)} {t : CellType}

theorem shared?_of_ne_missing (ht : t ≠ .missing) (cells : List (Cell num)) :
    shared? t cells = if forall u, u ∈ presentTypes cells -> u = t then some t else none := by
  induction cells with
  | nil => rfl
  | cons c rest ih =>
      unfold shared?
      by_cases hc : c.type = .missing
      · rw [if_pos hc, ih, presentTypes_cons_of_missing hc]
      · rw [if_neg hc, if_neg ht, presentTypes_cons_of_ne_missing hc]
        by_cases hsame : t = c.type
        · rw [if_pos hsame, ih]
          simp [hsame]
        · rw [if_neg hsame, if_neg]
          intro hall
          exact hsame (hall c.type List.mem_cons_self).symm

theorem shared?_of_not_mix (h : ¬ Mix cells) :
    shared? .missing cells = some (commonType cells) := by
  induction cells with
  | nil => rfl
  | cons c rest ih =>
      unfold shared?
      by_cases hc : c.type = .missing
      · have hrest : ¬ Mix rest := by
          rwa [Mix, presentTypes_cons_of_missing hc] at h
        rw [if_pos hc, ih hrest, commonType_cons_of_missing hc]
      · rw [if_neg hc, if_pos rfl, shared?_of_ne_missing hc, commonType_cons_of_ne_missing hc,
          if_pos]
        intro u hu
        have hmem : u ∈ presentTypes (c :: rest) := by
          rw [presentTypes_cons_of_ne_missing hc]
          exact List.mem_cons_of_mem _ hu
        rw [eq_commonType_of_mem h hmem, commonType_cons_of_ne_missing hc]

theorem shared?_of_mix (h : Mix cells) : shared? .missing cells = none := by
  induction cells with
  | nil =>
      rcases h with ⟨t, u, ht, -⟩
      cases ht
  | cons c rest ih =>
      unfold shared?
      by_cases hc : c.type = .missing
      · rw [if_pos hc]
        apply ih
        rwa [Mix, presentTypes_cons_of_missing hc] at h
      · rw [if_neg hc, if_pos rfl, shared?_of_ne_missing hc, if_neg]
        intro hall
        rcases h with ⟨t, u, ht, hu, hne⟩
        rw [presentTypes_cons_of_ne_missing hc, List.mem_cons] at ht hu
        have hsame : forall v, v = c.type ∨ v ∈ presentTypes rest -> v = c.type := by
          intro v hv
          exact hv.elim id (hall v)
        exact hne ((hsame t ht).trans (hsame u hu).symm)

end CellType

/-!
## Columns to be added
-/

namespace Addition

def name : Addition num -> String
  | numbers name _ => name
  | texts name _ => name
  | flags name _ => name
  | cells name _ => name

def entries : Addition num -> List (Cell num)
  | numbers _ xs => xs.map Cell.number
  | texts _ ss => ss.map Cell.text
  | flags _ bs => bs.map Cell.flag
  | cells _ cs => cs

def type : Addition num -> CellType
  | numbers _ _ => .number
  | texts _ _ => .text
  | flags _ _ => .flag
  | cells _ cs => Cell.commonType cs

def column (a : Addition num) : Column num where
  name := a.name
  type := a.type
  cells := a.entries

variable {a : Addition num}

theorem type_eq_of_mem_entries (h : ¬ Cell.Mix a.entries) {v : Cell num} (hv : v ∈ a.entries) :
    v.type = .missing ∨ v.type = a.type := by
  cases a with
  | numbers name xs =>
      rcases List.mem_map.mp hv with ⟨x, _, rfl⟩
      exact Or.inr rfl
  | texts name ss =>
      rcases List.mem_map.mp hv with ⟨s, _, rfl⟩
      exact Or.inr rfl
  | flags name bs =>
      rcases List.mem_map.mp hv with ⟨b, _, rfl⟩
      exact Or.inr rfl
  | cells name cs =>
      by_cases hmissing : v.type = .missing
      · exact Or.inl hmissing
      · exact Or.inr (Cell.eq_commonType_of_mem h
          (Cell.mem_presentTypes_iff.mpr ⟨hmissing, v, hv, rfl⟩))

theorem not_mix_of_forall_type_eq {cells : List (Cell num)} {t : CellType}
    (h : forall v, v ∈ cells -> v.type = t) : ¬ Cell.Mix cells := by
  intro hmix
  rcases hmix with ⟨u, v, hu, hv, hne⟩
  rcases Cell.mem_presentTypes_iff.mp hu with ⟨_, c, hc, rfl⟩
  rcases Cell.mem_presentTypes_iff.mp hv with ⟨_, d, hd, rfl⟩
  exact hne ((h c hc).trans (h d hd).symm)

end Addition

/-!
## Frames
-/

namespace Frame

/-- A frame is well formed if its columns have different names, as many cells as the frame has rows
and no cells but missing ones and those of their type, and if there are no rows without columns. -/
structure WellFormed (f : Frame num) : Prop where
  names : f.columnNames.Nodup
  lengths : forall c, c ∈ f.columns -> c.cells.length = f.rowCount
  types : forall c, c ∈ f.columns -> forall v, v ∈ c.cells -> v.type = .missing ∨ v.type = c.type
  rows : f.columns = [] -> f.rowCount = 0

inductive Reachable : Frame num -> Prop
  | empty : Reachable empty
  | ofXY (xs ys : List num) : Reachable (ofXY xs ys)
  | after {f : Frame num} (h : Reachable f) (a : Addition num) : Reachable (f.after a).1

variable {f g : Frame num} {a : Addition num} {c : Column num}

/-!
### What becomes of an addition
-/

theorem hasColumn_iff {name : String} : f.hasColumn name = true ↔ name ∈ f.columnNames := by
  simp [hasColumn, columnNames]

theorem receive_of_mix (f : Frame num) (h : Cell.Mix a.entries) :
    f.receive a = .error (.mixedColumn a.name) := by
  cases a with
  | numbers name xs =>
      refine absurd h (Addition.not_mix_of_forall_type_eq (t := .number) ?_)
      intro v hv
      rcases List.mem_map.mp hv with ⟨x, _, rfl⟩
      rfl
  | texts name ss =>
      refine absurd h (Addition.not_mix_of_forall_type_eq (t := .text) ?_)
      intro v hv
      rcases List.mem_map.mp hv with ⟨s, _, rfl⟩
      rfl
  | flags name bs =>
      refine absurd h (Addition.not_mix_of_forall_type_eq (t := .flag) ?_)
      intro v hv
      rcases List.mem_map.mp hv with ⟨b, _, rfl⟩
      rfl
  | cells name cs =>
      have hcells : Cell.Mix cs := h
      change f.addCells name cs = _
      unfold addCells
      rw [CellType.shared?_of_mix hcells]
      rfl

theorem receive_of_not_mix (f : Frame num) (h : ¬ Cell.Mix a.entries) :
    f.receive a = f.add a.column := by
  cases a with
  | numbers name xs => rfl
  | texts name ss => rfl
  | flags name bs => rfl
  | cells name cs =>
      have hcells : ¬ Cell.Mix cs := h
      change f.addCells name cs = _
      unfold addCells
      rw [CellType.shared?_of_not_mix hcells]
      rfl

theorem add_of_mem (h : c.name ∈ f.columnNames) : f.add c = .error (.duplicateColumn c.name) := by
  unfold add
  rw [if_pos (hasColumn_iff.mpr h)]
  rfl

theorem add_of_length_ne (hname : c.name ∉ f.columnNames) (hcolumns : f.columns ≠ [])
    (hlength : c.cells.length ≠ f.rowCount) :
    f.add c = .error (.columnLengthMismatch c.name f.rowCount c.cells.length) := by
  unfold add
  rw [if_neg (fun h => hname (hasColumn_iff.mp h)), if_pos ⟨hcolumns, hlength⟩]
  rfl

theorem add_of_fits (hname : c.name ∉ f.columnNames)
    (hlength : f.columns = [] ∨ c.cells.length = f.rowCount) :
    f.add c = .ok { columns := f.columns ++ [c], rowCount := c.cells.length } := by
  unfold add
  rw [if_neg (fun h => hname (hasColumn_iff.mp h)), if_neg]
  · rfl
  · rintro ⟨hcolumns, hne⟩
    exact hlength.elim hcolumns hne

theorem after_of_receive_eq_error {e : PlotError num} (h : f.receive a = .error e) :
    f.after a = (f, .error e) := by
  unfold after
  rw [h]
  rfl

theorem after_of_receive_eq_ok (h : f.receive a = .ok g) : f.after a = (g, .ok ()) := by
  unfold after
  rw [h]
  rfl

/-!
### Well-formed frames
-/

theorem wellFormed_empty : (empty : Frame num).WellFormed where
  names := List.nodup_nil
  lengths := by
    intro c hc
    cases hc
  types := by
    intro c hc
    cases hc
  rows := fun _ => rfl

theorem wellFormed_ofXY (xs ys : List num) : (ofXY xs ys).WellFormed where
  names := by
    change ["x", "y"].Nodup
    decide
  lengths := by
    intro c hc
    simp only [ofXY, List.mem_cons, List.not_mem_nil, or_false] at hc ⊢
    rcases hc with rfl | rfl
    · simp
    · simp
  types := by
    intro c hc v hv
    simp only [ofXY, List.mem_cons, List.not_mem_nil, or_false] at hc
    rcases hc with rfl | rfl
    · rcases List.mem_map.mp hv with ⟨x, _, rfl⟩
      exact Or.inr rfl
    · rcases List.mem_map.mp hv with ⟨y, _, rfl⟩
      exact Or.inr rfl
  rows := by
    intro h
    cases h

theorem WellFormed.concat (h : f.WellFormed) (hname : c.name ∉ f.columnNames)
    (hlength : f.columns = [] ∨ c.cells.length = f.rowCount)
    (htypes : forall v, v ∈ c.cells -> v.type = .missing ∨ v.type = c.type) :
    WellFormed { columns := f.columns ++ [c], rowCount := c.cells.length } where
  names := by
    change ((f.columns ++ [c]).map Column.name).Nodup
    rw [List.map_append]
    refine List.Nodup.append h.names (List.nodup_singleton _) ?_
    intro name hmem hlast
    rw [List.map_singleton, List.mem_singleton] at hlast
    exact hname (hlast ▸ hmem)
  lengths := by
    intro d hd
    rcases List.mem_append.mp hd with hd | hd
    · rcases hlength with hnil | hsame
      · rw [hnil] at hd
        cases hd
      · exact (h.lengths d hd).trans hsame.symm
    · rw [List.mem_singleton.mp hd]
  types := by
    intro d hd
    rcases List.mem_append.mp hd with hd | hd
    · exact h.types d hd
    · rw [List.mem_singleton.mp hd]
      exact htypes
  rows := by
    intro hnil
    exact absurd hnil (List.append_ne_nil_of_right_ne_nil f.columns (List.cons_ne_nil c []))

theorem after_cases (f : Frame num) (a : Addition num) :
    (Cell.Mix a.entries -> f.after a = (f, .error (.mixedColumn a.name))) ∧
    (¬ Cell.Mix a.entries -> a.name ∈ f.columnNames ->
      f.after a = (f, .error (.duplicateColumn a.name))) ∧
    (¬ Cell.Mix a.entries -> a.name ∉ f.columnNames -> f.columns ≠ [] ->
      a.entries.length ≠ f.rowCount ->
      f.after a = (f, .error (.columnLengthMismatch a.name f.rowCount a.entries.length))) ∧
    (¬ Cell.Mix a.entries -> a.name ∉ f.columnNames ->
      (f.columns = [] ∨ a.entries.length = f.rowCount) ->
      f.after a
        = ({ columns := f.columns ++ [a.column], rowCount := a.entries.length }, .ok ())) := by
  refine ⟨?_, ?_, ?_, ?_⟩
  · intro hmix
    exact after_of_receive_eq_error (receive_of_mix f hmix)
  · intro hmix hname
    exact after_of_receive_eq_error ((receive_of_not_mix f hmix).trans (add_of_mem hname))
  · intro hmix hname hcolumns hlength
    exact after_of_receive_eq_error
      ((receive_of_not_mix f hmix).trans (add_of_length_ne hname hcolumns hlength))
  · intro hmix hname hlength
    exact after_of_receive_eq_ok ((receive_of_not_mix f hmix).trans (add_of_fits hname hlength))

theorem WellFormed.after (h : f.WellFormed) (a : Addition num) : (f.after a).1.WellFormed := by
  rcases after_cases f a with ⟨hmixed, hduplicate, hmismatch, htaken⟩
  by_cases hmix : Cell.Mix a.entries
  · rwa [hmixed hmix]
  · by_cases hname : a.name ∈ f.columnNames
    · rwa [hduplicate hmix hname]
    · by_cases hlength : f.columns = [] ∨ a.entries.length = f.rowCount
      · rw [htaken hmix hname hlength]
        exact h.concat hname hlength fun v hv => Addition.type_eq_of_mem_entries hmix hv
      · rcases not_or.mp hlength with ⟨hcolumns, hne⟩
        rwa [hmismatch hmix hname hcolumns hne]

theorem Reachable.wellFormed (h : f.Reachable) : f.WellFormed := by
  induction h with
  | empty => exact wellFormed_empty
  | ofXY xs ys => exact wellFormed_ofXY xs ys
  | after _ a ih => exact ih.after a

/-- Every frame that additions lead to is well formed.  An addition to it is refused if its cells mix
types, otherwise if its name is taken, otherwise if there are columns with another number of rows;
the frame then stays as it was.  In no other case is an addition refused. -/
theorem Reachable.wellFormed_and_after (h : f.Reachable) :
    f.WellFormed ∧ forall a : Addition num,
      (Cell.Mix a.entries -> f.after a = (f, .error (.mixedColumn a.name))) ∧
      (¬ Cell.Mix a.entries -> a.name ∈ f.columnNames ->
        f.after a = (f, .error (.duplicateColumn a.name))) ∧
      (¬ Cell.Mix a.entries -> a.name ∉ f.columnNames -> f.columns ≠ [] ->
        a.entries.length ≠ f.rowCount ->
        f.after a = (f, .error (.columnLengthMismatch a.name f.rowCount a.entries.length))) ∧
      (¬ Cell.Mix a.entries -> a.name ∉ f.columnNames ->
        (f.columns = [] ∨ a.entries.length = f.rowCount) ->
        f.after a
          = ({ columns := f.columns ++ [a.column], rowCount := a.entries.length }, .ok ())) :=
  ⟨h.wellFormed, after_cases f⟩

/-!
### Columns that are looked up
-/

theorem mem_columns_of_column_eq_ok {key : ColumnKey} (h : f.column key = .ok c) :
    c ∈ f.columns := by
  cases key with
  | name name =>
      simp only [column] at h
      split at h
      next d hd =>
          cases pure_eq_ok.mp h
          exact List.mem_of_find?_eq_some hd
      next => exact absurd h throw_ne_ok
  | index i =>
      simp only [column] at h
      split at h
      next d hd =>
          cases pure_eq_ok.mp h
          exact List.mem_of_getElem? hd
      next => exact absurd h throw_ne_ok

theorem length_series [Scalar num] (c : Column num) : c.series.length = c.cells.length := by
  unfold Column.series
  cases c.type <;> exact List.length_map _

theorem WellFormed.length_of_get_eq_ok [Scalar num] (h : f.WellFormed) {key : ColumnKey}
    {s : Series num} (hget : f.get key = .ok s) : s.length = f.rowCount := by
  rcases map_eq_ok.mp hget with ⟨c, hc, rfl⟩
  rw [length_series, h.lengths c (mem_columns_of_column_eq_ok hc)]

/-!
### A frame without rows
-/

def rowless : Frame Exact :=
  ((empty.after (.cells "a" [])).1.after (.texts "b" ["p", "q"])).1

theorem wellFormed_and_after_rowless :
    rowless.WellFormed ∧
      rowless.after (.cells "a" [.missing, .flag true, .text "p"])
        = (rowless, .error (.mixedColumn "a")) ∧
      rowless.after (.texts "b" ["p"]) = (rowless, .error (.columnLengthMismatch "b" 0 1)) := by
  have hreachable : rowless.Reachable := (Reachable.empty.after _).after _
  rcases hreachable.wellFormed_and_after with ⟨hwellFormed, hafter⟩
  have hmix : Cell.Mix ([.missing, .flag true, .text "p"] : List (Cell Exact)) :=
    ⟨.flag, .text, by decide, by decide, by decide⟩
  have hsingle : ¬ Cell.Mix ([.text "p"] : List (Cell Exact)) :=
    Addition.not_mix_of_forall_type_eq (t := .text) (by decide)
  refine ⟨hwellFormed, (hafter (.cells "a" _)).1 hmix, ?_⟩
  exact (hafter (.texts "b" ["p"])).2.2.1 hsingle (by decide) (by decide) (by decide)

end Frame
end LayeredPlot
