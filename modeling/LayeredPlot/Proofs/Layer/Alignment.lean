import LayeredPlot.Number.Exact
import LayeredPlot.Proofs.Data.Frame
import LayeredPlot.Proofs.Layer.Evaluation
import LayeredPlot.Proofs.Layer.Filling

/-!
# Layers whose series have one length

A constant is repeated for the longest series of its own mapping.  A mapping that reads a column has
one, and all its series have as many rows as the frame.  In a mapping of nothing but constants there
is none to measure them by, so they have no rows, also next to shared series that have some.
-/

namespace LayeredPlot

variable {num : Type}

/-!
## Columns and constants
-/

theorem Series.length_of_replicate_eq_some {rows : Nat} {c : Cell num} {s : Series num}
    (h : Series.replicate rows c = some s) : s.length = rows := by
  cases c with
  | number x =>
      cases h
      exact List.length_replicate
  | text t =>
      cases h
      exact List.length_replicate
  | flag b => cases h
  | missing => cases h

namespace Source

def IsRepeatable (source : Source num) : Prop :=
  exists c, source = .constant c ∧ (c.type = .number ∨ c.type = .text)

theorem IsRepeatable.exists_repeated?_eq_some {source : Source num} (h : source.IsRepeatable)
    (rows : Nat) : exists s, source.repeated? rows = some s := by
  rcases h with ⟨c, rfl, hc⟩
  cases c with
  | number x => exact ⟨_, rfl⟩
  | text t => exact ⟨_, rfl⟩
  | flag b => rcases hc with hc | hc <;> cases hc
  | missing => rcases hc with hc | hc <;> cases hc

end Source

namespace Mapping

variable [Scalar num] {m : Mapping num} {f : Frame num} {result : Table (Series num)}
  {name : String} {s : Series num}

def IsPlain (m : Mapping num) : Prop :=
  forall name source, m.find? name = some source ->
    (exists key, source = .column key) ∨ source.IsRepeatable

def ReadsColumn (m : Mapping num) : Prop :=
  exists name key, m.find? name = some (.column key)

theorem IsPlain.exists_get_of_drawn?_eq_some (hm : m.IsPlain) {source : Source num}
    (hname : m.find? name = some source) (hs : source.drawn? f = some s) :
    exists key, source = .column key ∧ f.get key = .ok s := by
  rcases hm name source hname with ⟨key, rfl⟩ | ⟨c, rfl, _⟩
  · exact ⟨key, rfl, Source.drawn?_derived_eq_some_iff.mp hs⟩
  · cases hs

theorem IsPlain.rowCount_of_readsColumn (hm : m.IsPlain) (hf : f.WellFormed)
    (hcolumn : m.ReadsColumn) (h : m.evaluate f = .ok result) : m.rowCount f = f.rowCount := by
  apply Nat.le_antisymm
  · apply rowCount_le_iff.mpr
    intro name source s hname hs
    rcases hm.exists_get_of_drawn?_eq_some hname hs with ⟨key, _, hget⟩
    exact (hf.length_of_get_eq_ok hget).le
  · rcases hcolumn with ⟨name, key, hname⟩
    rcases exists_read_of_evaluate_eq_ok h hname with ⟨s, hs⟩
    have hdrawn : (Source.column key).drawn? f = some s :=
      Source.drawn?_derived_eq_some_iff.mpr hs
    rw [← hf.length_of_get_eq_ok hs]
    exact rowCount_le_iff.mp (Nat.le_refl _) name _ s hname hdrawn

theorem IsPlain.rowCount_of_not_readsColumn (hm : m.IsPlain) (hcolumn : ¬ m.ReadsColumn) :
    m.rowCount f = 0 := by
  apply Nat.le_zero.mp
  apply rowCount_le_iff.mpr
  intro name source s hname hs
  rcases hm.exists_get_of_drawn?_eq_some hname hs with ⟨key, rfl, _⟩
  exact absurd ⟨name, key, hname⟩ hcolumn

theorem IsPlain.length_of_evaluate_eq_ok (hm : m.IsPlain) (hf : f.WellFormed)
    (h : m.evaluate f = .ok result) (hs : result.find? name = some s) :
    s.length = m.rowCount f := by
  rw [find?_of_evaluate_eq_ok h] at hs
  rcases Option.bind_eq_some_iff.mp hs with ⟨source, hname, hs⟩
  rcases hm name source hname with ⟨key, rfl⟩ | ⟨c, rfl, hc⟩
  · have hdrawn : (Source.column key).drawn? f = some s := hs
    rcases hm.exists_get_of_drawn?_eq_some hname hdrawn with ⟨key', _, hget⟩
    rw [hf.length_of_get_eq_ok hget, hm.rowCount_of_readsColumn hf ⟨name, key, hname⟩ h]
  · have hrepeated : Series.replicate (m.rowCount f) c = some s := (Option.or_none ..).symm.trans hs
    exact Series.length_of_replicate_eq_some hrepeated

theorem IsPlain.forall_length_eq_iff (hm : m.IsPlain) (hf : f.WellFormed)
    (h : m.evaluate f = .ok result) :
    (forall name s, result.find? name = some s -> s.length = f.rowCount) ↔
      m.isEmpty = true ∨ m.ReadsColumn ∨ f.rowCount = 0 := by
  by_cases hreads : m.ReadsColumn
  · refine iff_of_true ?_ (Or.inr (Or.inl hreads))
    intro name s hs
    rw [hm.length_of_evaluate_eq_ok hf h hs, hm.rowCount_of_readsColumn hf hreads h]
  · have hzero : forall name s, result.find? name = some s -> s.length = 0 := by
      intro name s hs
      rw [hm.length_of_evaluate_eq_ok hf h hs, hm.rowCount_of_not_readsColumn hreads]
    constructor
    · intro hlengths
      by_cases hempty : m.isEmpty = true
      · exact Or.inl hempty
      · -- Some constant has a series without rows, so the frame has none either.
        rw [Table.isEmpty_iff, not_forall] at hempty
        rcases hempty with ⟨name, hname⟩
        rcases Option.ne_none_iff_exists'.mp hname with ⟨source, hsource⟩
        have hrepeatable := (hm name source hsource).resolve_left
          fun ⟨key, hkey⟩ => hreads ⟨name, key, hkey ▸ hsource⟩
        rcases hrepeatable.exists_repeated?_eq_some (m.rowCount f) with ⟨s, hs⟩
        have hfind : result.find? name = some s := by
          rw [find?_of_evaluate_eq_ok h, hsource, Option.bind_some, hs, Option.some_or]
        exact Or.inr (Or.inr ((hlengths name s hfind).symm.trans (hzero name s hfind)))
    · intro hor name s hs
      rcases hor with hempty | hcolumn | hrows
      · have hcontains := contains_of_evaluate_eq_ok h (Table.contains_iff.mpr ⟨s, hs⟩)
        exact absurd (Table.isEmpty_iff.mp hempty name) fun hnone =>
          Table.not_contains_iff.mpr hnone hcontains
      · exact absurd hcolumn hreads
      · rw [hzero name s hs, hrows]

end Mapping

/-!
## Layers
-/

def ResolvedLayer.IsAligned (layer : ResolvedLayer num) (rows : Nat) : Prop :=
  forall name s, layer.aesthetics.find? name = some s -> s.length = rows

namespace Layer

variable [Scalar num] {frame : Frame num} {m : Mapping num} {shared own : Table (Series num)}
  {layer : Layer num} {resolved : ResolvedLayer num}

theorem isAligned_iff_of_shared (hown : layer.ownSeries frame = .ok own)
    (hshared : forall name s, shared.find? name = some s -> s.length = frame.rowCount)
    (hresolve : layer.resolve frame shared = .ok resolved) :
    resolved.IsAligned frame.rowCount ↔
      forall name s, own.find? name = some s -> s.length = frame.rowCount := by
  have hsettles := settles_of_resolve_eq_ok hown hresolve
  constructor
  · intro h name s hs
    exact h name s (hsettles.keeps_series name s hs)
  · intro h name s hs
    rcases hsettles.series_from name s hs with hs | ⟨_, _, hs, _⟩
    · exact h name s hs
    · exact hshared name s hs

/-- If the shared mapping reads a column and both mappings consist of columns and constants, a layer
over the data of the plot is aligned with them exactly if its own mapping reads a column too or has
no source, or if there are no rows. -/
theorem isAligned_iff_of_resolve_eq_ok (hf : frame.Reachable) (hm : m.IsPlain)
    (hcolumn : m.ReadsColumn) (hshared : m.evaluate frame = .ok shared)
    (hframe : layer.frame = none) (hplain : forall n, layer.mapping = some n -> n.IsPlain)
    (hresolve : layer.resolve frame shared = .ok resolved) :
    resolved.IsAligned frame.rowCount ↔
      forall n, layer.mapping = some n ->
        n.isEmpty = true ∨ n.ReadsColumn ∨ frame.rowCount = 0 := by
  have hwell := hf.wellFormed
  rcases exists_ownSeries_of_resolve_eq_ok hresolve with ⟨own, hown⟩
  have hlengths : forall name s, shared.find? name = some s -> s.length = frame.rowCount := by
    intro name s hs
    rw [hm.length_of_evaluate_eq_ok hwell hshared hs,
      hm.rowCount_of_readsColumn hwell hcolumn hshared]
  rw [isAligned_iff_of_shared hown hlengths hresolve]
  unfold ownSeries at hown
  cases hmapping : layer.mapping with
  | none =>
      rw [hmapping] at hown
      cases pure_eq_ok.mp hown
      refine iff_of_true ?_ ?_
      · intro name s hs
        cases hs
      · intro n hn
        cases hn
  | some n =>
      rw [hmapping, hframe] at hown
      rw [(hplain n hmapping).forall_length_eq_iff hwell hown]
      constructor
      · intro h n' hn'
        cases hn'
        exact h
      · intro h
        exact h n rfl

/-!
## Lines over two rows
-/

def lineWith (own : Mapping Exact) : Layer Exact where
  mark := .line
  frame := none
  mapping := some own
  properties := Table.empty

def twoRows : Frame Exact :=
  Frame.ofXY [.value 0, .value 1] [.value 5, .value 7]

def columnSource (name : String) : Source Exact :=
  .column (.name name)

def numberSource (q : Rat) : Source Exact :=
  .constant (.number (.value q))

def positionColumns : Mapping Exact :=
  Table.ofList [("x", columnSource "x"), ("y", columnSource "y")]

def widthOverColumn : Mapping Exact :=
  Table.ofList [("size", numberSource 2), ("y", columnSource "x")]

def oneHeight : Mapping Exact :=
  Table.ofList [("y", numberSource 5)]

theorem isPlain_of_forall_mem {m : Mapping Exact}
    (h : forall e, e ∈ m.entries ->
      (exists name, e.2 = columnSource name) ∨ exists q, e.2 = numberSource q) : m.IsPlain := by
  intro name source hname
  rcases h (name, source) (Table.mem_entries_iff.mpr hname) with ⟨key, hkey⟩ | ⟨q, hq⟩
  · exact Or.inl ⟨.name key, hkey⟩
  · exact Or.inr ⟨.number (.value q), hq, Or.inl rfl⟩

theorem positionColumns_isPlain : positionColumns.IsPlain := by
  apply isPlain_of_forall_mem
  change forall e, e ∈ [("x", columnSource "x"), ("y", columnSource "y")] -> _
  simp

theorem widthOverColumn_isPlain : widthOverColumn.IsPlain := by
  apply isPlain_of_forall_mem
  change forall e, e ∈ [("size", numberSource 2), ("y", columnSource "x")] -> _
  simp

theorem oneHeight_isPlain : oneHeight.IsPlain := by
  apply isPlain_of_forall_mem
  change forall e, e ∈ [("y", numberSource 5)] -> _
  simp

theorem exists_resolve_lineWith_eq_ok {own : Mapping Exact} {test : ResolvedLayer Exact -> Bool}
    (hrun : (positionColumns.evaluate twoRows >>= (lineWith own).resolve twoRows).toOption.any test
      = true) :
    exists shared resolved, positionColumns.evaluate twoRows = .ok shared ∧
      (lineWith own).resolve twoRows shared = .ok resolved ∧ test resolved = true := by
  rcases (Option.any_eq_true _ _).mp hrun with ⟨resolved, hresolved, htest⟩
  rcases bind_eq_ok.mp (toOption_eq_some_iff.mp hresolved) with ⟨shared, hshared, hresolve⟩
  exact ⟨shared, resolved, hshared, hresolve, htest⟩

theorem positionColumns_readsColumn : positionColumns.ReadsColumn :=
  ⟨"x", .name "x", rfl⟩

theorem isAligned_iff_of_resolve_eq_ok_widthOverColumn :
    exists shared resolved, positionColumns.evaluate twoRows = .ok shared ∧
      (lineWith widthOverColumn).resolve twoRows shared = .ok resolved ∧
      resolved.aesthetics.find? "size" = some (.numbers [.value 2, .value 2]) ∧
      resolved.IsAligned twoRows.rowCount := by
  have hrun : (positionColumns.evaluate twoRows >>=
      (lineWith widthOverColumn).resolve twoRows).toOption.any (fun resolved =>
        decide (resolved.aesthetics.find? "size"
          = some (.numbers [.value 2, .value 2]))) = true := by
    decide +kernel
  rcases exists_resolve_lineWith_eq_ok hrun with ⟨shared, resolved, hshared, hresolve, hsize⟩
  refine ⟨shared, resolved, hshared, hresolve, of_decide_eq_true hsize, ?_⟩
  apply (isAligned_iff_of_resolve_eq_ok (.ofXY _ _) positionColumns_isPlain
    positionColumns_readsColumn hshared rfl ?_ hresolve).mpr
  · intro n hn
    cases hn
    exact Or.inr (Or.inl ⟨"y", .name "x", rfl⟩)
  · intro n hn
    cases hn
    exact widthOverColumn_isPlain

/-- The constant for the height has no column next to it, so it is repeated for no rows, while the
positions along the other axis are those of two rows. -/
theorem not_forall_isAligned :
    ¬ forall (frame : Frame Exact) (m : Mapping Exact) (shared : Table (Series Exact))
        (layer : Layer Exact) (resolved : ResolvedLayer Exact),
      frame.Reachable -> m.IsPlain -> m.ReadsColumn -> m.evaluate frame = .ok shared ->
      layer.frame = none -> (forall n, layer.mapping = some n -> n.IsPlain) ->
      layer.resolve frame shared = .ok resolved -> resolved.IsAligned frame.rowCount := by
  intro hall
  have hrun : (positionColumns.evaluate twoRows >>=
      (lineWith oneHeight).resolve twoRows).toOption.any (fun resolved =>
        decide (resolved.aesthetics.find? "y" = some (.numbers []))) = true := by
    decide +kernel
  rcases exists_resolve_lineWith_eq_ok hrun with ⟨shared, resolved, hshared, hresolve, hy⟩
  have hplain : forall n, (lineWith oneHeight).mapping = some n -> n.IsPlain := by
    intro n hn
    cases hn
    exact oneHeight_isPlain
  have haligned := hall twoRows positionColumns shared (lineWith oneHeight) resolved (.ofXY _ _)
    positionColumns_isPlain positionColumns_readsColumn hshared rfl hplain hresolve
  have hlength : 0 = 2 := haligned "y" (.numbers []) (of_decide_eq_true hy)
  cases hlength

end Layer
end LayeredPlot
