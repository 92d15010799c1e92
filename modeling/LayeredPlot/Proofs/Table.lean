import LayeredPlot.Proofs.Outcome
import LayeredPlot.Table.Lemmas

/-!
# Tables that are filled in a loop

A loop over the entries of one table fills another.  As the entries have distinct
names, what stands under a name in the end depends on the entry of this name
alone.  As they are in the order of their names, a loop that fails does so for the
least name for which it can.
-/

namespace LayeredPlot
namespace Table

variable {item other error : Type}

/-!
## Entries and look-ups
-/

theorem mem_entries_iff {t : Table item} {name : String} {x : item} :
    (name, x) ∈ t.entries ↔ t.find? name = some x := by
  rcases t with ⟨entries, hsorted⟩
  change (name, x) ∈ entries ↔ entries.lookup name = some x
  induction entries with
  | nil => simp
  | cons e rest ih =>
      rcases List.pairwise_cons.mp hsorted with ⟨hrest, htail⟩
      rw [List.mem_cons, ih htail]
      by_cases hname : name = e.1
      · rw [hname, lookup_cons_name, lookup_eq_none_of_forall_lt hrest, Prod.ext_iff]
        simp [eq_comm]
      · rw [List.lookup_cons, beq_false_of_ne hname, Prod.ext_iff]
        simp [hname]

theorem mem_names_iff {t : Table item} {name : String} :
    name ∈ t.names ↔ exists x, t.find? name = some x := by
  unfold names
  rw [List.mem_map]
  constructor
  · intro h
    rcases h with ⟨⟨name', x⟩, hmem, rfl⟩
    exact ⟨x, mem_entries_iff.mp hmem⟩
  · intro h
    rcases h with ⟨x, hx⟩
    exact ⟨(name, x), mem_entries_iff.mpr hx, rfl⟩

theorem contains_iff {t : Table item} {name : String} :
    t.contains name = true ↔ exists x, t.find? name = some x := by
  unfold contains
  rw [Option.isSome_iff_exists]

theorem not_contains_iff {t : Table item} {name : String} :
    ¬ t.contains name = true ↔ t.find? name = none := by
  unfold contains
  rw [Option.not_isSome_iff_eq_none]

theorem isEmpty_iff {t : Table item} : t.isEmpty = true ↔ forall name, t.find? name = none := by
  unfold isEmpty
  rw [List.isEmpty_iff, List.eq_nil_iff_forall_not_mem]
  constructor
  · intro h name
    apply Option.eq_none_iff_forall_ne_some.mpr
    intro x hx
    exact h (name, x) (mem_entries_iff.mpr hx)
  · intro h e he
    have hfind := mem_entries_iff.mp he
    rw [h e.1] at hfind
    cases hfind

theorem find?_insert (t : Table item) (name other : String) (x : item) :
    (t.insert name x).find? other = if other = name then some x else t.find? other := by
  split
  next h => rw [h, find?_insert_self]
  next h => exact find?_insert_of_ne t h x

theorem find?_singleton (name other : String) (x : item) :
    (singleton name x).find? other = if other = name then some x else none :=
  find?_insert empty name other x

theorem find?_filter (t : Table item) (test : String -> item -> Bool) (name : String) :
    (t.filter test).find? name = (t.find? name).filter (test name) := by
  apply Option.ext
  intro x
  rw [← mem_entries_iff, Option.filter_eq_some_iff, ← mem_entries_iff]
  exact List.mem_filter

theorem find?_eq_none_of_mem_filter {t : Table item} {u : Table other} {e : String × item}
    (h : e ∈ (t.filter fun name _ => !u.contains name).entries) : u.find? e.1 = none := by
  have htest := (List.mem_filter.mp h).2
  simpa [contains] using htest

theorem exists_find?_of_mem_filter {t : Table item} {u : Table other} {e : String × item}
    (h : e ∈ (t.filter fun name _ => u.contains name).entries) :
    exists x, u.find? e.1 = some x :=
  contains_iff.mp (List.mem_filter.mp h).2

theorem find?_filterMap (t : Table item) (f : String -> item -> Option other) (name : String) :
    (t.filterMap f).find? name = (t.find? name).bind (f name) := by
  apply Option.ext
  intro y
  rw [← mem_entries_iff, Option.bind_eq_some_iff]
  constructor
  · intro h
    rcases List.mem_filterMap.mp h with ⟨⟨name', x⟩, hmem, hx⟩
    rcases Option.map_eq_some_iff.mp hx with ⟨y', hy', heq⟩
    cases heq
    exact ⟨x, mem_entries_iff.mp hmem, hy'⟩
  · intro h
    rcases h with ⟨x, hx, hy⟩
    refine List.mem_filterMap.mpr ⟨(name, x), mem_entries_iff.mpr hx, ?_⟩
    exact Option.map_eq_some_iff.mpr ⟨y, hy, rfl⟩

/-!
## The first entry with a property
-/

/-- The item that comes first among those with a property, which is the one of the least name. -/
structure IsFirst (t : Table item) (P : String -> item -> Prop) (name : String) (x : item) :
    Prop where
  found : t.find? name = some x
  holds : P name x
  least : forall other y, other < name -> t.find? other = some y -> ¬ P other y

theorem isFirst_iff_split {t : Table item} {P : String -> item -> Prop} {name : String}
    {x : item} :
    t.IsFirst P name x ↔
      exists before after, t.entries = before ++ (name, x) :: after ∧
        (forall e, e ∈ before -> ¬ P e.1 e.2) ∧ P name x := by
  constructor
  · intro h
    rcases List.append_of_mem (mem_entries_iff.mpr h.found) with ⟨before, after, hsplit⟩
    refine ⟨before, after, hsplit, ?_, h.holds⟩
    intro e he
    have hsorted := t.sorted
    rw [hsplit] at hsorted
    have hlt := (List.pairwise_append.mp hsorted).2.2 e he (name, x) List.mem_cons_self
    refine h.least e.1 e.2 hlt (mem_entries_iff.mp ?_)
    rw [hsplit]
    exact List.mem_append_left _ he
  · intro h
    rcases h with ⟨before, after, hsplit, hbefore, hx⟩
    have hsorted := t.sorted
    rw [hsplit] at hsorted
    have hafter := List.pairwise_cons.mp (List.pairwise_append.mp hsorted).2.1
    refine ⟨mem_entries_iff.mp ?_, hx, ?_⟩
    · rw [hsplit]
      exact List.mem_append_right before List.mem_cons_self
    · intro other y hlt hy
      -- An entry of a lesser name is not this one, nor does it come after it.
      have hmem := mem_entries_iff.mpr hy
      rw [hsplit] at hmem
      rcases List.mem_append.mp hmem with hmem | hmem
      · exact hbefore (other, y) hmem
      · rcases List.mem_cons.mp hmem with heq | hmem
        · cases heq
          exact absurd hlt (String.lt_irrefl name)
        · exact absurd (String.lt_trans hlt (hafter.1 (other, y) hmem)) (String.lt_irrefl other)

theorem find?_entries_eq_some_iff {t : Table item} {test : String -> Bool} {name : String}
    {x : item} :
    t.entries.find? (fun e => test e.1) = some (name, x) ↔
      t.IsFirst (fun n _ => test n = true) name x := by
  rw [List.find?_eq_some_iff_append, isFirst_iff_split]
  simp only [Bool.not_eq_true', Bool.not_eq_true]
  constructor
  · intro h
    rcases h with ⟨htest, before, after, hsplit, hbefore⟩
    exact ⟨before, after, hsplit, hbefore, htest⟩
  · intro h
    rcases h with ⟨before, after, hsplit, hbefore, htest⟩
    exact ⟨htest, before, after, hsplit, hbefore⟩

theorem foldlM_entries_eq_error_iff {state : Type} {t : Table item}
    {visit : state -> String × item -> Except error state}
    (faults : String -> item -> error -> Prop)
    (h : forall s entry e, visit s entry = .error e ↔ faults entry.1 entry.2 e) {s : state}
    {e : error} :
    t.entries.foldlM visit s = .error e ↔
      exists name x, t.IsFirst (fun n y => exists e', faults n y e') name x ∧ faults name x e := by
  rw [foldlM_eq_error_iff h]
  constructor
  · intro hsplit
    rcases hsplit with ⟨before, ⟨name, x⟩, after, heq, hbefore, hx⟩
    refine ⟨name, x, isFirst_iff_split.mpr ⟨before, after, heq, ?_, e, hx⟩, hx⟩
    intro entry hentry hfault
    rcases hfault with ⟨e', hfault⟩
    exact hbefore entry hentry e' hfault
  · intro hfirst
    rcases hfirst with ⟨name, x, hfirst, hx⟩
    rcases isFirst_iff_split.mp hfirst with ⟨before, after, heq, hbefore, _⟩
    refine ⟨before, (name, x), after, heq, ?_, hx⟩
    intro entry hentry e' hfault
    exact hbefore entry hentry ⟨e', hfault⟩

/-!
## Loops that insert
-/

theorem find?_insertAll (t u : Table item) (name : String) :
    (t.insertAll u.entries).find? name = (u.find? name).or (t.find? name) := by
  rcases u with ⟨entries, hsorted⟩
  change (t.insertAll entries).find? name = (entries.lookup name).or (t.find? name)
  induction entries generalizing t with
  | nil => rfl
  | cons e rest ih =>
      rcases List.pairwise_cons.mp hsorted with ⟨hrest, htail⟩
      have hloop : (t.insertAll (e :: rest)) = (t.insert e.1 e.2).insertAll rest := rfl
      rw [hloop, ih (t.insert e.1 e.2) htail]
      by_cases hname : name = e.1
      · rw [hname, lookup_cons_name, lookup_eq_none_of_forall_lt hrest, find?_insert_self]
        rfl
      · rw [List.lookup_cons, beq_false_of_ne hname, find?_insert_of_ne t hname]

theorem find?_ofList_map (f : String -> item) (names : List String) (name : String) :
    (ofList (names.map fun n => (n, f n))).find? name
      = if name ∈ names then some (f name) else none := by
  have hloop : forall t : Table item,
      (t.insertAll (names.map fun n => (n, f n))).find? name
        = if name ∈ names then some (f name) else t.find? name := by
    induction names with
    | nil => intro t; rfl
    | cons n rest ih =>
        intro t
        change ((t.insert n (f n)).insertAll (rest.map fun n => (n, f n))).find? name = _
        rw [ih, find?_insert]
        by_cases hrest : name ∈ rest
        · simp [hrest]
        · by_cases hname : name = n
          · simp [hname]
          · simp [hrest, hname]
  exact hloop empty

section Loop

variable {f : String × item -> Except error other}
  {visit : Table other -> String × item -> Except error (Table other)}

theorem exists_foldlM_eq_ok {entries : List (String × item)}
    (hvisit : forall t e, e ∈ entries -> visit t e = t.insert e.1 <$> f e)
    (h : forall e, e ∈ entries -> exists y, f e = .ok y) (t : Table other) :
    exists result, entries.foldlM visit t = .ok result := by
  induction entries generalizing t with
  | nil => exact ⟨t, rfl⟩
  | cons e rest ih =>
      rcases h e List.mem_cons_self with ⟨y, hy⟩
      rcases ih (fun t e' he' => hvisit t e' (List.mem_cons_of_mem e he')) (fun e' he' => h e'
          (List.mem_cons_of_mem e he')) (t.insert e.1 y) with
        ⟨result, hresult⟩
      exists result
      rw [List.foldlM_cons, hvisit t e List.mem_cons_self, hy]
      exact hresult

/-- In a loop of which each visit changes nothing but what stands under the name of its entry, every
name is visited at most once: after the loop there stands under it what this visit has left. -/
theorem find?_of_foldlM_of_local {u : Table item} {t result : Table other}
    (hlocal : forall t t' e, e ∈ u.entries -> visit t e = .ok t' ->
      forall name, name ≠ e.1 -> t'.find? name = t.find? name)
    (h : u.entries.foldlM visit t = .ok result) (name : String) :
    match u.find? name with
    | some x => exists s s', visit s (name, x) = .ok s' ∧ s.find? name = t.find? name ∧
        result.find? name = s'.find? name
    | none => result.find? name = t.find? name := by
  rcases u with ⟨entries, hsorted⟩
  change match entries.lookup name with
    | some x => exists s s', visit s (name, x) = .ok s' ∧ s.find? name = t.find? name ∧
        result.find? name = s'.find? name
    | none => result.find? name = t.find? name
  induction entries generalizing t with
  | nil =>
      cases pure_eq_ok.mp h
      rfl
  | cons e rest ih =>
      rcases List.pairwise_cons.mp hsorted with ⟨hrest, htail⟩
      rw [List.foldlM_cons] at h
      rcases bind_eq_ok.mp h with ⟨next, hnext, h⟩
      have hafter := ih htail (fun t t' e' he' => hlocal t t' e' (List.mem_cons_of_mem e he')) h
      -- No later entry has the name of the first one, so what it has left stays.
      by_cases hname : name = e.1
      · subst hname
        rw [lookup_eq_none_of_forall_lt hrest] at hafter
        rw [lookup_cons_name]
        exact ⟨t, next, hnext, rfl, hafter⟩
      · rw [hlocal t next e List.mem_cons_self hnext name hname] at hafter
        rw [List.lookup_cons, beq_false_of_ne hname]
        exact hafter

theorem find?_of_foldlM_eq_ok {u : Table item} {t result : Table other}
    (hvisit : forall t e, e ∈ u.entries -> visit t e = t.insert e.1 <$> f e)
    (h : u.entries.foldlM visit t = .ok result) (name : String) :
    match u.find? name with
    | some x => exists y, f (name, x) = .ok y ∧ result.find? name = some y
    | none => result.find? name = t.find? name := by
  have hlocal : forall t t' e, e ∈ u.entries -> visit t e = .ok t' ->
      forall name, name ≠ e.1 -> t'.find? name = t.find? name := by
    intro t t' e he ht' name hname
    rw [hvisit t e he] at ht'
    rcases map_eq_ok.mp ht' with ⟨y, _, rfl⟩
    exact find?_insert_of_ne t hname y
  have hname := find?_of_foldlM_of_local hlocal h name
  cases hfind : u.find? name with
  | none =>
      rw [hfind] at hname
      exact hname
  | some x =>
      rw [hfind] at hname
      rcases hname with ⟨s, s', hs', _, hresult⟩
      rw [hvisit s (name, x) (mem_entries_iff.mpr hfind)] at hs'
      rcases map_eq_ok.mp hs' with ⟨y, hy, rfl⟩
      exact ⟨y, hy, hresult.trans (find?_insert_self s name y)⟩

end Loop

end Table
end LayeredPlot
