/-!
# Tables

A table holds items under names, at most one under each.  Its entries are in the
order of their names by code point, so a walk through a table meets the names in
that order, and two tables with the same items under the same names are equal.
-/

namespace LayeredPlot

/-- Items under distinct names, in the order of the names. -/
structure Table (item : Type) where
  entries : List (String × item)
  sorted : entries.Pairwise fun e f => e.1 < f.1
  deriving DecidableEq

namespace Table

variable {item other : Type}

/-! ## Entries in order -/

def insertEntry (name : String) (x : item) : List (String × item) -> List (String × item)
  | [] => [(name, x)]
  | e :: rest =>
      if name < e.1 then (name, x) :: e :: rest
      else if name = e.1 then (name, x) :: rest
      else e :: insertEntry name x rest

theorem mem_insertEntry {name : String} {x : item} {e : String × item}
    {entries : List (String × item)} (h : e ∈ insertEntry name x entries) :
    e = (name, x) ∨ e ∈ entries := by
  induction entries with
  | nil => simpa [insertEntry] using h
  | cons f rest ih =>
      unfold insertEntry at h
      split at h
      · simpa using h
      · split at h
        · rcases List.mem_cons.mp h with h | h
          · exact Or.inl h
          · exact Or.inr (List.mem_cons_of_mem _ h)
        · rcases List.mem_cons.mp h with h | h
          · exact Or.inr (h ▸ List.mem_cons_self)
          · exact (ih h).imp_right (List.mem_cons_of_mem _)

theorem lt_of_not_lt_of_ne {s t : String} (hlt : ¬ s < t) (hne : ¬ s = t) : t < s := by
  apply Decidable.byContradiction
  intro h
  exact hne (String.le_antisymm (String.not_lt.mp h) (String.not_lt.mp hlt))

theorem insertEntry_sorted (name : String) (x : item) {entries : List (String × item)}
    (h : entries.Pairwise fun e f => e.1 < f.1) :
    (insertEntry name x entries).Pairwise fun e f => e.1 < f.1 := by
  induction entries with
  | nil => simp [insertEntry]
  | cons e rest ih =>
      obtain ⟨hrest, htail⟩ := List.pairwise_cons.mp h
      unfold insertEntry
      split
      next hlt =>
          refine List.pairwise_cons.mpr ⟨?_, h⟩
          intro f hf
          rcases List.mem_cons.mp hf with hf | hf
          · exact hf ▸ hlt
          · exact String.lt_trans hlt (hrest f hf)
      next hlt =>
          split
          next heq => exact List.pairwise_cons.mpr ⟨fun f hf => heq ▸ hrest f hf, htail⟩
          next hne =>
              refine List.pairwise_cons.mpr ⟨?_, ih htail⟩
              intro f hf
              rcases mem_insertEntry hf with hf | hf
              · exact hf ▸ lt_of_not_lt_of_ne hlt hne
              · exact hrest f hf

/-! ## Operations -/

def empty : Table item where
  entries := []
  sorted := List.Pairwise.nil

instance : Inhabited (Table item) := ⟨empty⟩

def find? (t : Table item) (name : String) : Option item :=
  t.entries.lookup name

def contains (t : Table item) (name : String) : Bool :=
  (t.find? name).isSome

def names (t : Table item) : List String :=
  t.entries.map Prod.fst

def items (t : Table item) : List item :=
  t.entries.map Prod.snd

def size (t : Table item) : Nat :=
  t.entries.length

def isEmpty (t : Table item) : Bool :=
  t.entries.isEmpty

def insert (t : Table item) (name : String) (x : item) : Table item where
  entries := insertEntry name x t.entries
  sorted := insertEntry_sorted name x t.sorted

def insertAll (t : Table item) (entries : List (String × item)) : Table item :=
  entries.foldl (fun t e => t.insert e.1 e.2) t

/-- The table of a list of entries; of two under one name the later one stays. -/
def ofList (entries : List (String × item)) : Table item :=
  empty.insertAll entries

def singleton (name : String) (x : item) : Table item :=
  empty.insert name x

def map (f : item -> other) (t : Table item) : Table other where
  entries := t.entries.map fun e => (e.1, f e.2)
  sorted := List.pairwise_map.mpr t.sorted

def filterMap (f : String -> item -> Option other) (t : Table item) : Table other where
  entries := t.entries.filterMap fun e => (f e.1 e.2).map fun y => (e.1, y)
  sorted := by
    refine List.pairwise_filterMap.mpr (t.sorted.imp ?_)
    intro e f' hlt x hx y hy
    obtain ⟨_, _, rfl⟩ := Option.map_eq_some_iff.mp hx
    obtain ⟨_, _, rfl⟩ := Option.map_eq_some_iff.mp hy
    exact hlt

def filter (test : String -> item -> Bool) (t : Table item) : Table item where
  entries := t.entries.filter fun e => test e.1 e.2
  sorted := t.sorted.filter _

end Table
end LayeredPlot
