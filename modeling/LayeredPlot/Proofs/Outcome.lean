import Mathlib.Control.Lawful
import Mathlib.Data.List.Forall2

/-!
# Outcomes of computations that may fail

A computation that may fail succeeds exactly if each of its steps does, and otherwise it fails as
its first step that does.
-/

namespace LayeredPlot

variable {error first second : Type}

theorem bind_eq_ok {x : Except error first} {f : first -> Except error second} {b : second} :
    x >>= f = .ok b ↔ exists a, x = .ok a ∧ f a = .ok b := by
  cases x with
  | error e =>
      constructor
      · intro h
        cases h
      · intro h
        rcases h with ⟨a, ha, hb⟩
        cases ha
  | ok a =>
      constructor
      · intro h
        exact ⟨a, rfl, h⟩
      · intro h
        rcases h with ⟨a', ha, hb⟩
        cases ha
        exact hb

theorem map_eq_ok {x : Except error first} {f : first -> second} {b : second} :
    f <$> x = .ok b ↔ exists a, x = .ok a ∧ f a = b := by
  cases x with
  | error e =>
      constructor
      · intro h
        cases h
      · intro h
        rcases h with ⟨a, ha, hb⟩
        cases ha
  | ok a =>
      constructor
      · intro h
        cases h
        exact ⟨a, rfl, rfl⟩
      · intro h
        rcases h with ⟨a', ha, hb⟩
        cases ha
        exact congrArg Except.ok hb

theorem pure_eq_ok {a b : first} : (pure a : Except error first) = .ok b ↔ a = b :=
  Except.ok.injEq a b ▸ Iff.rfl

theorem bind_eq_error {x : Except error first} {f : first -> Except error second} {e : error} :
    x >>= f = .error e ↔ x = .error e ∨ exists a, x = .ok a ∧ f a = .error e := by
  cases x with
  | error e' =>
      constructor
      · intro h
        cases h
        exact Or.inl rfl
      · intro h
        rcases h with h | ⟨a, ha, _⟩
        · cases h
          rfl
        · cases ha
  | ok a =>
      constructor
      · intro h
        exact Or.inr ⟨a, rfl, h⟩
      · intro h
        rcases h with h | ⟨a', ha, h⟩
        · cases h
        · cases ha
          exact h

theorem map_eq_error {x : Except error first} {f : first -> second} {e : error} :
    f <$> x = .error e ↔ x = .error e := by
  cases x with
  | error e' =>
      constructor
      · intro h
        cases h
        rfl
      · intro h
        cases h
        rfl
  | ok a =>
      constructor
      · intro h
        cases h
      · intro h
        cases h

theorem eq_of_error_iff {x y : Except error first} (herror : forall e, x = .error e ↔ y = .error e)
    (hok : forall a b, x = .ok a -> y = .ok b -> a = b) : x = y := by
  cases x with
  | error e => exact ((herror e).mp rfl).symm
  | ok a =>
      cases y with
      | error e => exact (herror e).mpr rfl
      | ok b => exact congrArg Except.ok (hok a b rfl rfl)

theorem toOption_eq_some_iff {x : Except error first} {a : first} :
    x.toOption = some a ↔ x = .ok a := by
  cases x with
  | error e =>
      constructor
      · intro h
        cases h
      · intro h
        cases h
  | ok b =>
      constructor
      · intro h
        cases h
        rfl
      · intro h
        cases h
        rfl

theorem throw_ne_ok {e : error} {b : first} : (throw e : Except error first) ≠ .ok b := by
  intro h
  cases h

theorem mapM_eq_ok_iff {f : first -> Except error second} {xs : List first} {ys : List second} :
    xs.mapM f = .ok ys ↔ List.Forall₂ (fun x y => f x = .ok y) xs ys := by
  induction xs generalizing ys with
  | nil => rw [List.mapM_nil, pure_eq_ok, List.forall₂_nil_left_iff, eq_comm]
  | cons x rest ih =>
      rw [List.mapM_cons, List.forall₂_cons_left_iff]
      constructor
      · intro h
        rcases bind_eq_ok.mp h with ⟨y, hy, h⟩
        rcases bind_eq_ok.mp h with ⟨others, hothers, h⟩
        exact ⟨y, others, hy, ih.mp hothers, (pure_eq_ok.mp h).symm⟩
      · intro h
        rcases h with ⟨y, others, hy, hothers, rfl⟩
        apply bind_eq_ok.mpr
        refine ⟨y, hy, ?_⟩
        apply bind_eq_ok.mpr
        exact ⟨others, ih.mpr hothers, rfl⟩

/-- A loop fails with the fault of the first item that has one, if the state of the loop has no part
in the faults. -/
theorem foldlM_eq_error_iff {state item : Type} {visit : state -> item -> Except error state}
    {faults : item -> error -> Prop} (h : forall s x e, visit s x = .error e ↔ faults x e)
    {xs : List item} {s : state} {e : error} :
    xs.foldlM visit s = .error e ↔
      exists before x after, xs = before ++ x :: after ∧
        (forall y, y ∈ before -> forall e', ¬ faults y e') ∧ faults x e := by
  induction xs generalizing s with
  | nil =>
      constructor
      · intro h
        cases h
      · intro h
        rcases h with ⟨before, x, after, hsplit, _⟩
        cases List.nil_eq_append_iff.mp hsplit |>.2
  | cons y rest ih =>
      rw [List.foldlM_cons]
      cases hvisit : visit s y with
      | error e' =>
          have hfault := (h s y e').mp hvisit
          constructor
          · intro herror
            cases herror
            exact ⟨[], y, rest, rfl, fun z hz => absurd hz List.not_mem_nil, hfault⟩
          · intro hsplit
            rcases hsplit with ⟨before, x, after, heq, hbefore, hx⟩
            rcases List.cons_eq_append_iff.mp heq with ⟨rfl, hcons⟩ | ⟨others, rfl, _⟩
            · cases hcons
              exact hvisit.symm.trans ((h s y e).mpr hx)
            · exact absurd hfault (hbefore y List.mem_cons_self e')
      | ok t =>
          have hnone : forall e', ¬ faults y e' := by
            intro e' hfault
            cases hvisit.symm.trans ((h s y e').mpr hfault)
          change rest.foldlM visit t = .error e ↔ _
          rw [ih]
          constructor
          · intro hsplit
            rcases hsplit with ⟨before, x, after, rfl, hbefore, hx⟩
            exact ⟨y :: before, x, after, rfl, List.forall_mem_cons.mpr ⟨hnone, hbefore⟩, hx⟩
          · intro hsplit
            rcases hsplit with ⟨before, x, after, heq, hbefore, hx⟩
            rcases List.cons_eq_append_iff.mp heq with ⟨rfl, hcons⟩ | ⟨others, rfl, hrest⟩
            · cases hcons
              exact absurd hx (hnone e)
            · exact ⟨others, x, after, hrest, (List.forall_mem_cons.mp hbefore).2, hx⟩

theorem foldlM_of_commutes {state item : Type} {f g : state -> item -> Except error state}
    {xs : List item} (change : state -> state)
    (h : forall x, x ∈ xs -> forall s, g (change s) x = change <$> f s x) (s : state) :
    xs.foldlM g (change s) = change <$> xs.foldlM f s := by
  induction xs generalizing s with
  | nil => rfl
  | cons x rest ih =>
      rw [List.foldlM_cons, List.foldlM_cons, h x List.mem_cons_self]
      cases f s x with
      | error e => rfl
      | ok t => exact ih (fun y hy => h y (List.mem_cons_of_mem x hy)) t

theorem mapM_congr {f g : first -> Except error second} {xs : List first}
    (h : forall x, x ∈ xs -> f x = g x) : xs.mapM f = xs.mapM g := by
  induction xs with
  | nil => rfl
  | cons x rest ih =>
      rw [List.mapM_cons, List.mapM_cons, h x List.mem_cons_self,
        ih fun y hy => h y (List.mem_cons_of_mem x hy)]

theorem mapM_eq_some {f : first -> Option second} {g : first -> second} {xs : List first}
    (h : forall x, x ∈ xs -> f x = some (g x)) : xs.mapM f = some (xs.map g) := by
  induction xs with
  | nil => rfl
  | cons x rest ih =>
      rw [List.mapM_cons, h x List.mem_cons_self, ih fun y hy => h y (List.mem_cons_of_mem x hy)]
      rfl

end LayeredPlot
