import LayeredPlot.Proofs.Data.Frame

/-!
# Columns that are read back

A column that was taken keeps its place, whatever is added after it and whether that is taken or
refused.  Under its name and at its place it is read as its cells are, row by row: only where a cell
is missing there stands something that was not stored.
-/

namespace LayeredPlot

variable {num : Type}

/-!
## Cells as they are read
-/

namespace Cell

inductive ReadsAsNumber [Scalar num] : Cell num -> num -> Prop
  | number (x : num) : ReadsAsNumber (.number x) x
  | missing : ReadsAsNumber .missing Scalar.undefined

inductive ReadsAsText : Cell num -> String -> Prop
  | text (s : String) : ReadsAsText (.text s) s
  | missing : ReadsAsText .missing ""

inductive ReadsAsWord : Cell num -> String -> Prop
  | holds : ReadsAsWord (.flag true) "true"
  | fails : ReadsAsWord (.flag false) "false"
  | missing : ReadsAsWord .missing ""

variable {v : Cell num}

theorem readsAsNumber_of_type [Scalar num] (h : v.type = .missing ∨ v.type = .number) :
    v.ReadsAsNumber (v.number?.getD Scalar.undefined) := by
  cases v with
  | number x => exact .number x
  | missing => exact .missing
  | text s => simp [type] at h
  | flag b => simp [type] at h

theorem readsAsText_of_type (h : v.type = .missing ∨ v.type = .text) :
    v.ReadsAsText (v.text?.getD "") := by
  cases v with
  | text s => exact .text s
  | missing => exact .missing
  | number x => simp [type] at h
  | flag b => simp [type] at h

theorem readsAsWord_of_type (h : v.type = .missing ∨ v.type = .flag) :
    v.ReadsAsWord v.flagText := by
  cases v with
  | flag b =>
      cases b with
      | true => exact .holds
      | false => exact .fails
  | missing => exact .missing
  | number x => simp [type] at h
  | text s => simp [type] at h

theorem eq_missing_of_type (h : v.type = .missing) : v = .missing := by
  cases v with
  | missing => rfl
  | number x => cases h
  | text s => cases h
  | flag b => cases h

end Cell

/-- The cells of a column are read row by row, as the type of the column tells.  A column of nothing
but missing cells is read as undefined numbers. -/
inductive CellType.Reads [Scalar num] : CellType -> List (Cell num) -> Series num -> Prop
  | numbers {cells : List (Cell num)} {xs : List num}
      (h : List.Forall₂ Cell.ReadsAsNumber cells xs) : Reads .number cells (.numbers xs)
  | texts {cells : List (Cell num)} {ss : List String}
      (h : List.Forall₂ Cell.ReadsAsText cells ss) : Reads .text cells (.texts ss)
  | words {cells : List (Cell num)} {ss : List String}
      (h : List.Forall₂ Cell.ReadsAsWord cells ss) : Reads .flag cells (.texts ss)
  | missing {cells : List (Cell num)} (h : forall v, v ∈ cells -> v = .missing) :
      Reads .missing cells (.numbers (List.replicate cells.length Scalar.undefined))

theorem forall₂_map_of_forall_mem {item other : Type} {R : item -> other -> Prop}
    {f : item -> other} {xs : List item} (h : forall x, x ∈ xs -> R x (f x)) :
    List.Forall₂ R xs (xs.map f) :=
  List.forall₂_map_right_iff.mpr (List.forall₂_same.mpr h)

theorem Column.reads_series [Scalar num] {c : Column num}
    (h : forall v, v ∈ c.cells -> v.type = .missing ∨ v.type = c.type) :
    c.type.Reads c.cells c.series := by
  rcases c with ⟨name, type, cells⟩
  cases type with
  | number =>
      exact .numbers (forall₂_map_of_forall_mem fun v hv => Cell.readsAsNumber_of_type (h v hv))
  | text =>
      exact .texts (forall₂_map_of_forall_mem fun v hv => Cell.readsAsText_of_type (h v hv))
  | flag =>
      exact .words (forall₂_map_of_forall_mem fun v hv => Cell.readsAsWord_of_type (h v hv))
  | missing =>
      have hmissing : forall v, v ∈ cells -> v = .missing := fun v hv =>
        Cell.eq_missing_of_type ((h v hv).elim id id)
      have hseries : cells.map (fun v => v.number?.getD Scalar.undefined)
          = List.replicate cells.length Scalar.undefined := by
        rw [List.map_eq_replicate_iff]
        intro v hv
        rw [hmissing v hv]
        rfl
      change CellType.Reads .missing cells (.numbers (cells.map _))
      rw [hseries]
      exact .missing hmissing

/-!
## Columns that stay
-/

namespace Frame

variable {f g : Frame num} {a : Addition num} {c : Column num}

def afterAll (f : Frame num) (as : List (Addition num)) : Frame num :=
  as.foldl (fun g a => (g.after a).1) f

theorem Reachable.afterAll (h : f.Reachable) (as : List (Addition num)) :
    (f.afterAll as).Reachable := by
  induction as generalizing f with
  | nil => exact h
  | cons a rest ih => exact ih (h.after a)

theorem after_eq_ok (h : f.after a = (g, .ok ())) :
    ¬ Cell.Mix a.entries ∧ g.columns = f.columns ++ [a.column] := by
  rcases after_cases f a with ⟨hmixed, hduplicate, hmismatch, htaken⟩
  by_cases hmix : Cell.Mix a.entries
  · cases (hmixed hmix).symm.trans h
  · by_cases hname : a.name ∈ f.columnNames
    · cases (hduplicate hmix hname).symm.trans h
    · by_cases hlength : f.columns = [] ∨ a.entries.length = f.rowCount
      · cases (htaken hmix hname hlength).symm.trans h
        exact ⟨hmix, rfl⟩
      · rcases not_or.mp hlength with ⟨hcolumns, hne⟩
        cases (hmismatch hmix hname hcolumns hne).symm.trans h

theorem columns_prefix_after (f : Frame num) (a : Addition num) :
    f.columns <+: (f.after a).1.columns := by
  cases hafter : f.after a with
  | mk g result =>
      cases result with
      | ok done =>
          rw [(after_eq_ok hafter).2]
          exact List.prefix_append f.columns [a.column]
      | error e =>
          unfold after at hafter
          split at hafter
          · cases hafter
          · cases hafter
            exact List.prefix_refl f.columns

theorem columns_prefix_afterAll (f : Frame num) (as : List (Addition num)) :
    f.columns <+: (f.afterAll as).columns := by
  induction as generalizing f with
  | nil => exact List.prefix_refl f.columns
  | cons a rest ih => exact (columns_prefix_after f a).trans (ih (f.after a).1)

/-!
## Look-ups
-/

theorem WellFormed.named?_eq_some (h : f.WellFormed) (hc : c ∈ f.columns) :
    f.named? c.name = some c := by
  unfold named?
  cases hfind : f.columns.find? fun d => d.name = c.name with
  | none => exact absurd (decide_eq_true rfl) (List.find?_eq_none.mp hfind c hc)
  | some d =>
      have hname : d.name = c.name := by simpa using List.find?_some hfind
      rw [List.inj_on_of_nodup_map h.names (List.mem_of_find?_eq_some hfind) hc hname]

theorem named?_eq_none {name : String} (h : name ∉ f.columnNames) : f.named? name = none := by
  unfold named?
  rw [List.find?_eq_none]
  intro c hc hname
  exact h (List.mem_map.mpr ⟨c, hc, of_decide_eq_true hname⟩)

variable [Scalar num]

theorem get_name_of_named?_eq_some {name : String} (h : f.named? name = some c) :
    f.get (.name name) = .ok c.series := by
  simp only [get, column, h]
  rfl

theorem get_index_of_getElem?_eq_some {i : Nat} (h : f.columns[i]? = some c) :
    f.get (.index i) = .ok c.series := by
  simp only [get, column, h]
  rfl

theorem get_name_of_not_mem {name : String} (h : name ∉ f.columnNames) :
    f.get (.name name) = .error (.unknownColumn name) := by
  simp only [get, column, named?_eq_none h]
  rfl

theorem get_index_of_columnCount_le {i : Nat} (h : f.columnCount ≤ i) :
    f.get (.index i) = .error (.columnIndexOutOfRange i f.columnCount) := by
  simp only [get, column, List.getElem?_eq_none h]
  rfl

/-- A column that a frame takes is from then on read in one and the same way under its name and at
its place, whatever else is added.  It has the type that was found for it, as many rows as the frame
and the cells that were stored.  No other names and places than those of columns are found. -/
theorem Reachable.get_of_after_eq_ok (h : f.Reachable) (htaken : f.after a = (g, .ok ())) :
    exists s, a.type.Reads a.entries s ∧ forall later : List (Addition num),
      (g.afterAll later).get (.name a.name) = .ok s ∧
      (g.afterAll later).get (.index f.columnCount) = .ok s ∧
      s.length = (g.afterAll later).rowCount ∧
      (g.afterAll later).columnTypes[f.columnCount]? = some a.type ∧
      (g.afterAll later).cells? a.name = some a.entries ∧
      (forall name, name ∉ (g.afterAll later).columnNames ->
        (g.afterAll later).get (.name name) = .error (.unknownColumn name)) ∧
      forall i, (g.afterAll later).columnCount ≤ i ->
        (g.afterAll later).get (.index i)
          = .error (.columnIndexOutOfRange i (g.afterAll later).columnCount) := by
  rcases after_eq_ok htaken with ⟨hmix, hcolumns⟩
  have hg : g.Reachable := by
    have := h.after a
    rwa [htaken] at this
  have hreads : a.type.Reads a.entries a.column.series :=
    Column.reads_series (c := a.column) fun v hv => Addition.type_eq_of_mem_entries hmix hv
  refine ⟨a.column.series, hreads, ?_⟩
  intro later
  have hwellFormed := (hg.afterAll later).wellFormed
  have hplace : (g.afterAll later).columns[f.columnCount]? = some a.column := by
    rcases columns_prefix_afterAll g later with ⟨others, hothers⟩
    rw [← hothers, hcolumns, List.append_assoc, columnCount,
      List.getElem?_append_right (Nat.le_refl _), Nat.sub_self]
    rfl
  have hnamed := hwellFormed.named?_eq_some (List.mem_of_getElem? hplace)
  have hget := get_name_of_named?_eq_some hnamed
  refine ⟨hget, get_index_of_getElem?_eq_some hplace, hwellFormed.length_of_get_eq_ok hget, ?_, ?_,
    fun name => get_name_of_not_mem, fun i => get_index_of_columnCount_le⟩
  · unfold columnTypes
    rw [List.getElem?_map, hplace]
    rfl
  · unfold cells?
    rw [show a.name = a.column.name from rfl, hnamed]
    rfl

/-!
### A column with a missing number
-/

theorem get_of_after_eq_ok_ofGap :
    exists g : Frame Exact,
      (empty : Frame Exact).after (.cells "a" [.missing, .number (.value 3)]) = (g, .ok ()) ∧
      (g.afterAll [.texts "a" ["p", "q"], .flags "b" [true, false], .texts "c" ["p"]]).get
        (.index 0) = .ok (.numbers [.undefined, .value 3]) := by
  have htaken : (empty : Frame Exact).after (.cells "a" [.missing, .number (.value 3)])
      = ({ columns := [{ name := "a", type := .number, cells := [.missing, .number (.value 3)] }],
           rowCount := 2 }, .ok ()) := rfl
  rcases Reachable.empty.get_of_after_eq_ok htaken with ⟨s, hreads, hlater⟩
  refine ⟨_, htaken, (hlater _).2.1.trans ?_⟩
  cases hreads with
  | numbers h =>
      rcases h with _ | ⟨⟨⟩, _ | ⟨⟨⟩, ⟨⟩⟩⟩
      rfl

end Frame
end LayeredPlot
