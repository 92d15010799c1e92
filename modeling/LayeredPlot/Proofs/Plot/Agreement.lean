import Mathlib.Data.List.Perm.Basic
import LayeredPlot.Proofs.Plot.Merging

/-!
# Agreement of scale declarations

Declarations of one scale that come from different parts of a plot are merged one
after another.  Whether this succeeds, and to what it leads, is told by all
declarations together and does not depend on their order.
-/

namespace LayeredPlot

variable {num : Type}

/-!
## At most one value
-/

section AtMostOne

variable {item other : Type} {f : item -> Option other}

theorem length_filterMap_concat_le_one (xs : List item) (x : item) :
    ((xs ++ [x]).filterMap f).length ≤ 1 ↔
      (xs.filterMap f).length ≤ 1 ∧ (xs.findSome? f = none ∨ f x = none) := by
  rw [List.filterMap_append, ← List.head?_filterMap]
  cases xs.filterMap f with
  | nil =>
      cases hx : f x with
      | none => simp [hx]
      | some y => simp [hx]
  | cons y rest =>
      cases hx : f x with
      | none => simp [hx]
      | some z => simp [hx]

theorem eq_of_perm_of_length_le_one {xs ys : List item} (h : xs.Perm ys)
    (hxs : xs.length ≤ 1) : xs = ys := by
  match xs, hxs with
  | [], _ => exact h.nil_eq
  | [x], _ => exact h.singleton_eq

theorem findSome?_eq_of_perm {xs ys : List item} (h : xs.Perm ys)
    (hxs : (xs.filterMap f).length ≤ 1) : xs.findSome? f = ys.findSome? f := by
  rw [← List.head?_filterMap, ← List.head?_filterMap,
    eq_of_perm_of_length_le_one (h.filterMap f) hxs]

end AtMostOne

namespace ScaleDeclaration

/-!
## Declarations of one scale
-/

/-- Declarations of one scale agree if there is only one, or if all are continuous and none gives
what another one gives. -/
structure Agree (ds : List (ScaleDeclaration num)) : Prop where
  continuous : 2 ≤ ds.length -> forall d, d ∈ ds -> d.IsContinuous
  limits : (ds.filterMap limits?).length ≤ 1
  breaks : (ds.filterMap breaks?).length ≤ 1
  labels : (ds.filterMap labels?).length ≤ 1

def unite? : List (ScaleDeclaration num) -> Option (ScaleDeclaration num)
  | [] => none
  | [d] => some d
  | ds =>
      some (.continuous
        { limits := ds.findSome? limits?
          breaks := ds.findSome? breaks?
          labels := ds.findSome? labels? })

variable {ds es : List (ScaleDeclaration num)} {d u : ScaleDeclaration num}

theorem agree_nil : Agree ([] : List (ScaleDeclaration num)) where
  continuous := by
    intro h d hd
    cases hd
  limits := Nat.zero_le 1
  breaks := Nat.zero_le 1
  labels := Nat.zero_le 1

theorem agree_singleton (d : ScaleDeclaration num) : Agree [d] where
  continuous := by
    intro h
    exact absurd h (by simp)
  limits := List.length_filterMap_le limits? [d]
  breaks := List.length_filterMap_le breaks? [d]
  labels := List.length_filterMap_le labels? [d]

theorem Agree.of_append (h : Agree (ds ++ es)) : Agree ds where
  continuous := by
    intro hlength d hd
    apply h.continuous
    · rw [List.length_append]
      omega
    · exact List.mem_append_left es hd
  limits := by
    have := h.limits
    rw [List.filterMap_append, List.length_append] at this
    omega
  breaks := by
    have := h.breaks
    rw [List.filterMap_append, List.length_append] at this
    omega
  labels := by
    have := h.labels
    rw [List.filterMap_append, List.length_append] at this
    omega

theorem Agree.perm (h : Agree ds) (hperm : ds.Perm es) : Agree es where
  continuous := by
    intro hlength d hd
    exact h.continuous (hperm.length_eq ▸ hlength) d (hperm.mem_iff.mpr hd)
  limits := (hperm.filterMap limits?).length_eq ▸ h.limits
  breaks := (hperm.filterMap breaks?).length_eq ▸ h.breaks
  labels := (hperm.filterMap labels?).length_eq ▸ h.labels

theorem unite?_of_two_le (h : 2 ≤ ds.length) :
    unite? ds = some (.continuous
      { limits := ds.findSome? limits?
        breaks := ds.findSome? breaks?
        labels := ds.findSome? labels? }) := by
  match ds, h with
  | _ :: _ :: _, _ => rfl

theorem unite?_eq_none_iff : unite? ds = none ↔ ds = [] := by
  match ds with
  | [] => simp [unite?]
  | [d] => simp [unite?]
  | _ :: _ :: _ => simp [unite?]

theorem unite?_perm (h : Agree ds) (hperm : ds.Perm es) : unite? ds = unite? es := by
  -- A single declaration is kept as it is, and then there is nothing to reorder.
  by_cases hlength : 2 ≤ ds.length
  · rw [unite?_of_two_le hlength, unite?_of_two_le (hperm.length_eq ▸ hlength),
      findSome?_eq_of_perm hperm h.limits, findSome?_eq_of_perm hperm h.breaks,
      findSome?_eq_of_perm hperm h.labels]
  · rw [eq_of_perm_of_length_le_one hperm (by omega)]

theorem fields_of_unite?_eq_some (hu : unite? ds = some u) :
    u.limits? = ds.findSome? limits? ∧ u.breaks? = ds.findSome? breaks? ∧
      u.labels? = ds.findSome? labels? := by
  match ds, hu with
  | [d], rfl => simp
  | _ :: _ :: _, rfl => exact ⟨rfl, rfl, rfl⟩

theorem isContinuous_of_unite?_eq_some (h : Agree ds) (hu : unite? ds = some u) :
    u.IsContinuous ↔ forall d, d ∈ ds -> d.IsContinuous := by
  match ds, hu with
  | [d], rfl => simp
  | a :: b :: rest, rfl =>
      constructor
      · intro _
        exact h.continuous (by simp)
      · intro _
        exact trivial

/-!
## One more declaration
-/

theorem two_le_length_concat (hu : unite? ds = some u) (d : ScaleDeclaration num) :
    2 ≤ (ds ++ [d]).length := by
  have hne : ds ≠ [] := by
    intro hnil
    rw [unite?_eq_none_iff.mpr hnil] at hu
    cases hu
  have hpos := List.length_pos_of_ne_nil hne
  rw [List.length_append, List.length_singleton]
  omega

theorem agree_concat_iff (h : Agree ds) (hu : unite? ds = some u) :
    Agree (ds ++ [d]) ↔ u.Joinable d := by
  rcases fields_of_unite?_eq_some hu with ⟨hlimits, hbreaks, hlabels⟩
  constructor
  · intro hagree
    have hall := hagree.continuous (two_le_length_concat hu d)
    constructor
    · apply (isContinuous_of_unite?_eq_some h hu).mpr
      intro e he
      exact hall e (List.mem_append_left [d] he)
    · exact hall d (List.mem_append_right ds List.mem_cons_self)
    · exact hlimits ▸ ((length_filterMap_concat_le_one ds d).mp hagree.limits).2
    · exact hbreaks ▸ ((length_filterMap_concat_le_one ds d).mp hagree.breaks).2
    · exact hlabels ▸ ((length_filterMap_concat_le_one ds d).mp hagree.labels).2
  · intro hjoinable
    constructor
    · intro _ e he
      rcases List.mem_append.mp he with he | he
      · exact (isContinuous_of_unite?_eq_some h hu).mp hjoinable.left e he
      · exact List.mem_singleton.mp he ▸ hjoinable.right
    · exact (length_filterMap_concat_le_one ds d).mpr ⟨h.limits, hlimits ▸ hjoinable.limits⟩
    · exact (length_filterMap_concat_le_one ds d).mpr ⟨h.breaks, hbreaks ▸ hjoinable.breaks⟩
    · exact (length_filterMap_concat_le_one ds d).mpr ⟨h.labels, hlabels ▸ hjoinable.labels⟩

theorem unite?_concat (hu : unite? ds = some u) : unite? (ds ++ [d]) = some (u.join d) := by
  rcases fields_of_unite?_eq_some hu with ⟨hlimits, hbreaks, hlabels⟩
  rw [unite?_of_two_le (two_le_length_concat hu d)]
  unfold join
  rw [hlimits, hbreaks, hlabels]
  simp only [List.findSome?_append, List.findSome?_singleton]

end ScaleDeclaration
end LayeredPlot
