import LayeredPlot.Table

/-!
# Looking up names in tables

What is found under a name after an insertion, and the main statement: tables
with the same items under the same names are equal.
-/

namespace LayeredPlot
namespace Table

variable {item : Type}

@[simp] theorem find?_empty (name : String) : (empty : Table item).find? name = none := rfl

theorem lookup_insertEntry_self (name : String) (x : item) (entries : List (String × item)) :
    (insertEntry name x entries).lookup name = some x := by
  induction entries with
  | nil => simp [insertEntry]
  | cons e rest ih =>
      unfold insertEntry
      split
      · simp
      · split
        · simp
        · rename_i hne
          rw [List.lookup_cons, beq_false_of_ne hne]
          exact ih

theorem lookup_insertEntry_of_ne {name other : String} (h : other ≠ name) (x : item)
    (entries : List (String × item)) :
    (insertEntry name x entries).lookup other = entries.lookup other := by
  induction entries with
  | nil => simp [insertEntry, List.lookup_cons, beq_false_of_ne h]
  | cons e rest ih =>
      unfold insertEntry
      split
      · rw [List.lookup_cons, beq_false_of_ne h]
      · split
        · rename_i heq
          rw [List.lookup_cons, List.lookup_cons, beq_false_of_ne h, ← heq, beq_false_of_ne h]
        · rw [List.lookup_cons, List.lookup_cons, ih]

@[simp] theorem find?_insert_self (t : Table item) (name : String) (x : item) :
    (t.insert name x).find? name = some x :=
  lookup_insertEntry_self name x t.entries

theorem find?_insert_of_ne (t : Table item) {name other : String} (h : other ≠ name) (x : item) :
    (t.insert name x).find? other = t.find? other :=
  lookup_insertEntry_of_ne h x t.entries

theorem lookup_eq_none_of_forall_lt {name : String} {entries : List (String × item)}
    (h : forall e, e ∈ entries -> name < e.1) : entries.lookup name = none := by
  induction entries with
  | nil => rfl
  | cons e rest ih =>
      have hne : name ≠ e.1 := by
        intro heq
        exact String.lt_irrefl e.1 (heq ▸ h e List.mem_cons_self)
      rw [List.lookup_cons, beq_false_of_ne hne]
      exact ih fun f hf => h f (List.mem_cons_of_mem e hf)

theorem lookup_cons_name (e : String × item) (rest : List (String × item)) :
    (e :: rest).lookup e.1 = some e.2 := by
  cases e
  simp

theorem eq_of_lookup_eq {entries others : List (String × item)}
    (hsorted : entries.Pairwise fun e f => e.1 < f.1)
    (hothers : others.Pairwise fun e f => e.1 < f.1)
    (h : forall name, entries.lookup name = others.lookup name) : entries = others := by
  induction entries generalizing others with
  | nil =>
      cases others with
      | nil => rfl
      | cons f rest =>
          have hf := h f.1
          rw [lookup_cons_name] at hf
          cases hf
  | cons e rest ih =>
      cases others with
      | nil =>
          have he := h e.1
          rw [lookup_cons_name] at he
          cases he
      | cons f others =>
          obtain ⟨hrest, htail⟩ := List.pairwise_cons.mp hsorted
          obtain ⟨hafter, hend⟩ := List.pairwise_cons.mp hothers
          have hname : e.1 = f.1 := by
            apply Decidable.byContradiction
            intro hne
            by_cases hlt : e.1 < f.1
            · have he := h e.1
              rw [lookup_cons_name, lookup_eq_none_of_forall_lt
                (fun g hg => (List.mem_cons.mp hg).elim (fun hg => hg ▸ hlt)
                  fun hg => String.lt_trans hlt (hafter g hg))] at he
              cases he
            · have hgt := lt_of_not_lt_of_ne hlt hne
              have hf := h f.1
              rw [lookup_cons_name, lookup_eq_none_of_forall_lt
                (fun g hg => (List.mem_cons.mp hg).elim (fun hg => hg ▸ hgt)
                  fun hg => String.lt_trans hgt (hrest g hg))] at hf
              cases hf
          have hitem : e.2 = f.2 := by
            have he := h e.1
            rw [lookup_cons_name, hname, lookup_cons_name] at he
            exact Option.some.inj he
          have htails : rest = others := by
            apply ih htail hend
            intro name
            by_cases hne : name = e.1
            · rw [hne, lookup_eq_none_of_forall_lt hrest, hname,
                lookup_eq_none_of_forall_lt hafter]
            · have hn := h name
              rwa [List.lookup_cons, List.lookup_cons, beq_false_of_ne hne,
                beq_false_of_ne (hname ▸ hne)] at hn
          rw [htails, Prod.ext hname hitem]

theorem ext_find? {t u : Table item} (h : forall name, t.find? name = u.find? name) : t = u := by
  obtain ⟨entries, hsorted⟩ := t
  obtain ⟨others, hothers⟩ := u
  have heq : entries = others := eq_of_lookup_eq hsorted hothers h
  cases heq
  rfl

end Table
end LayeredPlot
