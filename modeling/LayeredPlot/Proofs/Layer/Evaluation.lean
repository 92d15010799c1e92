import LayeredPlot.Layer.Mapping
import LayeredPlot.Proofs.Table

/-!
# Evaluated mappings

A mapping that is evaluated has a series under the name of every source, a constant without a series
apart.  The series of a constant has as many rows as the longest one that is not of a constant.  A
mapping cannot be evaluated if one of its sources fails, and then the least name of such a source
tells the error.
-/

namespace LayeredPlot

variable {num : Type}

namespace Source

def drawn? (f : Frame num) : Source num -> Option (Series num)
  | .constant _ => none
  | .series s => some s
  | .derived read => (read f).toOption

def repeated? (rows : Nat) : Source num -> Option (Series num)
  | .constant c => Series.replicate rows c
  | _ => none

theorem drawn?_derived_eq_some_iff {f : Frame num} {s : Series num}
    {read : Frame num -> Except (PlotError num) (Series num)} :
    (derived read).drawn? f = some s ↔ read f = .ok s :=
  toOption_eq_some_iff

/-- The series that a source leads to over a frame, where constants have so many rows.  Truth values
and missing cells lead to none. -/
inductive Yields (f : Frame num) (rows : Nat) : Source num -> Series num -> Prop
  | series (s : Series num) : Yields f rows (.series s) s
  | derived {read : Frame num -> Except (PlotError num) (Series num)} {s : Series num}
      (h : read f = .ok s) : Yields f rows (.derived read) s
  | number (x : num) : Yields f rows (.constant (.number x)) (.numbers (List.replicate rows x))
  | text (t : String) : Yields f rows (.constant (.text t)) (.texts (List.replicate rows t))

theorem yields_iff {f : Frame num} {rows : Nat} {source : Source num} {s : Series num} :
    source.Yields f rows s ↔ (source.repeated? rows).or (source.drawn? f) = some s := by
  constructor
  · intro h
    cases h with
    | series s => rfl
    | derived h => exact drawn?_derived_eq_some_iff.mpr h
    | number x => rfl
    | text t => rfl
  · intro h
    cases source with
    | series s' =>
        cases h
        exact .series _
    | derived read => exact .derived (drawn?_derived_eq_some_iff.mp h)
    | constant c =>
        cases c with
        | number x =>
            cases h
            exact .number _
        | text t =>
            cases h
            exact .text _
        | flag b => cases h
        | missing => cases h

end Source

namespace Mapping

variable {m : Mapping num} {f : Frame num} {drawn result : Table (Series num)} {name : String}
  {rows n : Nat}

/-!
## Sources that are not constants
-/

theorem find?_of_draw_eq_ok {next : Table (Series num)} {e : String × Source num}
    (h : draw f drawn e = .ok next) :
    next.find? e.1 = (e.2.drawn? f).or (drawn.find? e.1) ∧
      forall name, name ≠ e.1 -> next.find? name = drawn.find? name := by
  rcases e with ⟨name, source⟩
  cases source with
  | constant c =>
      cases pure_eq_ok.mp h
      exact ⟨rfl, fun _ _ => rfl⟩
  | series s =>
      cases pure_eq_ok.mp h
      exact ⟨Table.find?_insert_self drawn name s,
        fun _ hne => Table.find?_insert_of_ne drawn hne s⟩
  | derived read =>
      rcases map_eq_ok.mp h with ⟨s, hs, rfl⟩
      refine ⟨?_, fun _ hne => Table.find?_insert_of_ne drawn hne s⟩
      rw [Source.drawn?_derived_eq_some_iff.mpr hs]
      exact Table.find?_insert_self drawn name s

theorem find?_of_foldlM_draw_eq_ok (h : m.entries.foldlM (draw f) Table.empty = .ok drawn)
    (name : String) : drawn.find? name = (m.find? name).bind (Source.drawn? f) := by
  have hname := Table.find?_of_foldlM_of_local
    (fun t t' e _ ht' => (find?_of_draw_eq_ok ht').2) h name
  cases hfind : m.find? name with
  | none =>
      rw [hfind] at hname
      exact hname
  | some source =>
      rw [hfind] at hname
      rcases hname with ⟨t, t', hdraw, hbefore, hafter⟩
      rw [hafter, (find?_of_draw_eq_ok hdraw).1]
      change (source.drawn? f).or (t.find? name) = _
      rw [hbefore, Table.find?_empty, Option.or_none]
      rfl

/-!
## Constants
-/

theorem repeatConstant_eq (rows : Nat) (drawn : Table (Series num)) (e : String × Source num) :
    repeatConstant rows drawn e
      = match e.2.repeated? rows with
        | some s => drawn.insert e.1 s
        | none => drawn := by
  rcases e with ⟨name, source⟩
  cases source <;> rfl

theorem find?_repeatConstant (rows : Nat) (drawn : Table (Series num)) (e : String × Source num) :
    (repeatConstant rows drawn e).find? e.1 = (e.2.repeated? rows).or (drawn.find? e.1) ∧
      forall name, name ≠ e.1 -> (repeatConstant rows drawn e).find? name = drawn.find? name := by
  rw [repeatConstant_eq]
  cases e.2.repeated? rows with
  | none => exact ⟨rfl, fun _ _ => rfl⟩
  | some s =>
      exact ⟨Table.find?_insert_self drawn e.1 s,
        fun _ hne => Table.find?_insert_of_ne drawn hne s⟩

theorem find?_foldl_repeatConstant (m : Mapping num) (rows : Nat) (drawn : Table (Series num))
    (name : String) :
    (m.entries.foldl (repeatConstant rows) drawn).find? name
      = ((m.find? name).bind (Source.repeated? rows)).or (drawn.find? name) := by
  -- The loop cannot fail, so it is one of those that may.
  have hloop : m.entries.foldlM
      (fun t e => (pure (repeatConstant rows t e) : Except (PlotError num) (Table (Series num))))
      drawn = .ok (m.entries.foldl (repeatConstant rows) drawn) :=
    List.foldlM_pure
  have hname := Table.find?_of_foldlM_of_local
    (fun t t' e _ ht' => pure_eq_ok.mp ht' ▸ (find?_repeatConstant rows t e).2) hloop name
  cases hfind : m.find? name with
  | none =>
      rw [hfind] at hname
      exact hname
  | some source =>
      rw [hfind] at hname
      rcases hname with ⟨t, t', hvisit, hbefore, hafter⟩
      cases pure_eq_ok.mp hvisit
      rw [hafter, (find?_repeatConstant rows t (name, source)).1, hbefore]
      rfl

/-!
## All sources
-/

def rowCount (m : Mapping num) (f : Frame num) : Nat :=
  longest (m.filterMap fun _ source => source.drawn? f)

theorem find?_of_evaluate_eq_ok (h : m.evaluate f = .ok result) (name : String) :
    result.find? name
      = (m.find? name).bind fun source =>
          (source.repeated? (m.rowCount f)).or (source.drawn? f) := by
  rcases bind_eq_ok.mp h with ⟨drawn, hdrawn, hresult⟩
  cases pure_eq_ok.mp hresult
  have heq : m.filterMap (fun _ source => source.drawn? f) = drawn := by
    apply Table.ext_find?
    intro name
    rw [Table.find?_filterMap, find?_of_foldlM_draw_eq_ok hdrawn]
  rw [find?_foldl_repeatConstant, find?_of_foldlM_draw_eq_ok hdrawn, ← heq]
  cases m.find? name with
  | none => rfl
  | some source => rfl

theorem exists_read_of_evaluate_eq_ok (h : m.evaluate f = .ok result)
    {read : Frame num -> Except (PlotError num) (Series num)}
    (hname : m.find? name = some (.derived read)) : exists s, read f = .ok s := by
  rcases bind_eq_ok.mp h with ⟨drawn, hdrawn, _⟩
  have hvisit := Table.find?_of_foldlM_of_local
    (fun t t' e _ ht' => (find?_of_draw_eq_ok ht').2) hdrawn name
  rw [hname] at hvisit
  rcases hvisit with ⟨t, t', hdraw, _⟩
  rcases map_eq_ok.mp hdraw with ⟨s, hs, _⟩
  exact ⟨s, hs⟩

theorem contains_of_evaluate_eq_ok (h : m.evaluate f = .ok result)
    (hname : result.contains name = true) : m.contains name = true := by
  rcases Table.contains_iff.mp hname with ⟨s, hs⟩
  rw [find?_of_evaluate_eq_ok h] at hs
  rcases Option.bind_eq_some_iff.mp hs with ⟨source, hsource, _⟩
  exact Table.contains_iff.mpr ⟨source, hsource⟩

/-!
## Rows
-/

theorem foldl_longer_le_iff {all : List (Series num)} :
    all.foldl (fun n s => max n s.length) rows ≤ n ↔
      rows ≤ n ∧ forall s, s ∈ all -> s.length ≤ n := by
  induction all generalizing rows with
  | nil => simp
  | cons s rest ih =>
      rw [List.foldl_cons, ih, List.forall_mem_cons, Nat.max_le, and_assoc]

theorem longest_le_iff :
    longest drawn ≤ n ↔ forall name s, drawn.find? name = some s -> s.length ≤ n := by
  unfold longest Table.items
  rw [foldl_longer_le_iff, and_iff_right (Nat.zero_le n), List.forall_mem_map]
  constructor
  · intro h name s hs
    exact h (name, s) (Table.mem_entries_iff.mpr hs)
  · intro h e he
    exact h e.1 e.2 (Table.mem_entries_iff.mp he)

theorem rowCount_le_iff :
    m.rowCount f ≤ n ↔ forall name source s, m.find? name = some source ->
      source.drawn? f = some s -> s.length ≤ n := by
  unfold rowCount
  rw [longest_le_iff]
  simp only [Table.find?_filterMap, Option.bind_eq_some_iff]
  constructor
  · intro h name source s hsource hs
    exact h name s ⟨source, hsource, hs⟩
  · intro h name s hs
    rcases hs with ⟨source, hsource, hs⟩
    exact h name source s hsource hs

structure IsRowCount (m : Mapping num) (f : Frame num) (rows : Nat) : Prop where
  bound : forall name source s, m.find? name = some source -> source.drawn? f = some s ->
    s.length ≤ rows
  reached : rows = 0 ∨ exists name source s, m.find? name = some source ∧
    source.drawn? f = some s ∧ s.length = rows

theorem isRowCount_iff : m.IsRowCount f rows ↔ m.rowCount f = rows := by
  constructor
  · intro h
    apply Nat.le_antisymm (rowCount_le_iff.mpr h.bound)
    rcases h.reached with rfl | ⟨name, source, s, hsource, hs, rfl⟩
    · exact Nat.zero_le _
    · exact rowCount_le_iff.mp (Nat.le_refl _) name source s hsource hs
  · intro h
    cases h
    have hbound := rowCount_le_iff.mp (Nat.le_refl (m.rowCount f))
    refine ⟨hbound, Classical.byContradiction ?_⟩
    intro hunreached
    rcases not_or.mp hunreached with ⟨hne, hnone⟩
    -- Otherwise every series would be shorter.
    have hshorter : m.rowCount f ≤ m.rowCount f - 1 := by
      apply rowCount_le_iff.mpr
      intro name source s hsource hs
      have hle := hbound name source s hsource hs
      have hlength : s.length ≠ m.rowCount f := fun heq => hnone ⟨name, source, s, hsource, hs, heq⟩
      omega
    omega

/-!
## What a mapping is evaluated to
-/

theorem evaluate_eq (m : Mapping num) (f : Frame num) :
    m.evaluate f = (fun drawn => m.entries.foldl (repeatConstant (longest drawn)) drawn) <$>
      m.entries.foldlM (draw f) Table.empty :=
  bind_pure_comp _ _

theorem draw_fails_iff {e : String × Source num} {fault : PlotError num} :
    draw f drawn e = .error fault ↔ exists read, e.2 = .derived read ∧ read f = .error fault := by
  rcases e with ⟨name, source⟩
  cases source with
  | constant c => simp [draw, pure, Except.pure]
  | series s => simp [draw, pure, Except.pure]
  | derived read =>
      change drawn.insert name <$> read f = .error fault ↔ _
      rw [map_eq_error]
      simp

theorem evaluate_eq_error_iff {fault : PlotError num} :
    m.evaluate f = .error fault ↔
      exists name read, m.find? name = some (.derived read) ∧ read f = .error fault ∧
        forall other read', other < name -> m.find? other = some (.derived read') ->
          exists s, read' f = .ok s := by
  rw [evaluate_eq, map_eq_error,
    Table.foldlM_entries_eq_error_iff (fun _ source e =>
      exists read, source = Source.derived read ∧ read f = .error e) fun _ _ _ => draw_fails_iff]
  constructor
  · intro h
    rcases h with ⟨name, _, hfirst, read, rfl, hread⟩
    refine ⟨name, read, hfirst.found, hread, ?_⟩
    intro other read' hlt hother
    cases hread' : read' f with
    | ok s => exact ⟨s, rfl⟩
    | error e => exact absurd ⟨e, read', rfl, hread'⟩ (hfirst.least other _ hlt hother)
  · intro h
    rcases h with ⟨name, read, hfound, hread, hleast⟩
    refine ⟨name, .derived read, ⟨hfound, ⟨fault, read, rfl, hread⟩, ?_⟩, read, rfl, hread⟩
    intro other source hlt hother hfault
    rcases hfault with ⟨e, read', rfl, hread'⟩
    rcases hleast other read' hlt hother with ⟨s, hs⟩
    cases hs.symm.trans hread'

theorem find?_eq_some_iff_yields_of_evaluate_eq_ok (h : m.evaluate f = .ok result)
    {s : Series num} :
    result.find? name = some s ↔
      exists source, m.find? name = some source ∧ source.Yields f (m.rowCount f) s := by
  rw [find?_of_evaluate_eq_ok h, Option.bind_eq_some_iff]
  simp only [Source.yields_iff]

theorem evaluate_eq_ok_iff :
    m.evaluate f = .ok result ↔
      (forall name read, m.find? name = some (.derived read) -> exists s, read f = .ok s) ∧
      exists rows, m.IsRowCount f rows ∧ forall name s, result.find? name = some s ↔
        exists source, m.find? name = some source ∧ source.Yields f rows s := by
  constructor
  · intro h
    exact ⟨fun name read => exists_read_of_evaluate_eq_ok h, m.rowCount f, isRowCount_iff.mpr rfl,
      fun name s => find?_eq_some_iff_yields_of_evaluate_eq_ok h⟩
  · intro h
    rcases h with ⟨hread, rows, hrows, hresult⟩
    cases isRowCount_iff.mp hrows
    cases hevaluate : m.evaluate f with
    | error fault =>
        rcases evaluate_eq_error_iff.mp hevaluate with ⟨name, read, hname, hfault, _⟩
        rcases hread name read hname with ⟨s, hs⟩
        cases hs.symm.trans hfault
    | ok evaluated =>
        refine congrArg Except.ok (Table.ext_find? fun name => Option.ext fun s => ?_)
        rw [find?_eq_some_iff_yields_of_evaluate_eq_ok hevaluate, hresult]

/-- A mapping cannot be evaluated exactly if one of its sources fails; it has then the error of the
least name of such a source.  Otherwise it has under every name the series of the source, where the
series and the readings of the data stay as they are, and a number or text stands in as many rows as
the longest of these has. -/
theorem evaluate_cases (m : Mapping num) (f : Frame num) :
    ((exists fault, m.evaluate f = .error fault) ↔
      exists name read fault, m.find? name = some (.derived read) ∧ read f = .error fault) ∧
    (forall fault, m.evaluate f = .error fault ↔
      exists name read, m.find? name = some (.derived read) ∧ read f = .error fault ∧
        forall other read', other < name -> m.find? other = some (.derived read') ->
          exists s, read' f = .ok s) ∧
    forall result, m.evaluate f = .ok result ↔
      (forall name read, m.find? name = some (.derived read) -> exists s, read f = .ok s) ∧
      exists rows, m.IsRowCount f rows ∧ forall name s, result.find? name = some s ↔
        exists source, m.find? name = some source ∧ source.Yields f rows s := by
  refine ⟨?_, fun fault => evaluate_eq_error_iff, fun result => evaluate_eq_ok_iff⟩
  constructor
  · intro h
    rcases h with ⟨fault, h⟩
    rcases evaluate_eq_error_iff.mp h with ⟨name, read, hname, hread, _⟩
    exact ⟨name, read, fault, hname, hread⟩
  · intro h
    rcases h with ⟨name, read, fault, hname, hread⟩
    cases hevaluate : m.evaluate f with
    | error e => exact ⟨e, rfl⟩
    | ok result =>
        rcases exists_read_of_evaluate_eq_ok hevaluate hname with ⟨s, hs⟩
        cases hs.symm.trans hread

end Mapping
end LayeredPlot
