import LayeredPlot.Picture.Scene
import LayeredPlot.Proofs.Table

/-!
# What a scene takes from its layers

A scene places the numbers that have a scale and leaves everything else as it is, so
each aesthetic of a layer is in exactly one of the two tables of its layer in the scene.
-/

namespace LayeredPlot

variable {num : Type} [Scalar num]

namespace SceneLayer

variable {scales : Table (Scale num)} {l : ResolvedLayer num} {name : String} {s : Series num}

theorem place?_eq_some_iff {us : List num} :
    place? scales name s = some us ↔
      exists scale xs, scales.find? name = some scale ∧ s.numbers? = some xs ∧
        xs.map scale.place = us := by
  unfold place?
  constructor
  · intro h
    split at h
    next scale xs hscale hxs => exact ⟨scale, xs, hscale, hxs, Option.some.inj h⟩
    next => cases h
  · intro h
    rcases h with ⟨scale, xs, hscale, hxs, rfl⟩
    rw [hscale, hxs]

theorem find?_scaled_eq_some_iff {us : List num} :
    (ofLayer scales l).scaled.find? name = some us ↔
      exists s scale xs, l.aesthetics.find? name = some s ∧ scales.find? name = some scale ∧
        s.numbers? = some xs ∧ xs.map scale.place = us := by
  change (l.aesthetics.filterMap (place? scales)).find? name = some us ↔ _
  rw [Table.find?_filterMap, Option.bind_eq_some_iff]
  simp only [place?_eq_some_iff, ← exists_and_left]

theorem find?_unscaled_eq_some_iff :
    (ofLayer scales l).unscaled.find? name = some s ↔
      l.aesthetics.find? name = some s ∧ place? scales name s = none := by
  change (l.aesthetics.filter fun name s => (place? scales name s).isNone).find? name = some s ↔ _
  rw [Table.find?_filter, Option.filter_eq_some_iff, Option.isNone_iff_eq_none]

/-- A layer of a scene takes up a layer whose series have scales if it is of the same kind with the
same properties, its placed and its unplaced series have the names of the layer's series between
them and none in common, all numbers are placed row by row, and what is not placed are texts as
they were. -/
structure TakesUp (scales : Table (Scale num)) (l : ResolvedLayer num) (placed : SceneLayer num) :
    Prop where
  mark : placed.mark = l.mark
  properties : placed.properties = l.properties
  covers : forall name, l.aesthetics.contains name = true ↔
    placed.scaled.contains name = true ∨ placed.unscaled.contains name = true
  disjoint : forall name,
    ¬ (placed.scaled.contains name = true ∧ placed.unscaled.contains name = true)
  numbers : forall name xs, l.aesthetics.find? name = some (.numbers xs) ->
    exists scale, scales.find? name = some scale ∧
      placed.scaled.find? name = some (xs.map scale.place)
  texts : forall name s, placed.unscaled.find? name = some s ->
    s.type = .text ∧ l.aesthetics.find? name = some s

theorem not_contains_scaled_and_unscaled (scales : Table (Scale num)) (l : ResolvedLayer num)
    (name : String) :
    ¬ ((ofLayer scales l).scaled.contains name = true ∧
        (ofLayer scales l).unscaled.contains name = true) := by
  intro h
  rcases h with ⟨hscaled, hunscaled⟩
  rcases Table.contains_iff.mp hscaled with ⟨us, hus⟩
  rcases Table.contains_iff.mp hunscaled with ⟨s, hs⟩
  rcases find?_unscaled_eq_some_iff.mp hs with ⟨hcarried, hnone⟩
  rcases find?_scaled_eq_some_iff.mp hus with ⟨s', scale, xs, hcarried', hplaced⟩
  rw [hcarried] at hcarried'
  cases hcarried'
  rw [place?_eq_some_iff.mpr ⟨scale, xs, hplaced⟩] at hnone
  cases hnone

theorem contains_iff_scaled_or_unscaled (scales : Table (Scale num)) (l : ResolvedLayer num)
    (name : String) :
    l.aesthetics.contains name = true ↔
      (ofLayer scales l).scaled.contains name = true ∨
        (ofLayer scales l).unscaled.contains name = true := by
  constructor
  · intro h
    rcases Table.contains_iff.mp h with ⟨s, hs⟩
    cases hplace : place? scales name s with
    | none =>
        exact Or.inr (Table.contains_iff.mpr ⟨s, find?_unscaled_eq_some_iff.mpr ⟨hs, hplace⟩⟩)
    | some us =>
        rcases place?_eq_some_iff.mp hplace with ⟨scale, xs, hplaced⟩
        exact Or.inl (Table.contains_iff.mpr
          ⟨us, find?_scaled_eq_some_iff.mpr ⟨s, scale, xs, hs, hplaced⟩⟩)
  · intro h
    rcases h with h | h
    · rcases Table.contains_iff.mp h with ⟨us, hus⟩
      rcases find?_scaled_eq_some_iff.mp hus with ⟨s, scale, xs, hs, hplaced⟩
      exact Table.contains_iff.mpr ⟨s, hs⟩
    · rcases Table.contains_iff.mp h with ⟨s, hs⟩
      exact Table.contains_iff.mpr ⟨s, (find?_unscaled_eq_some_iff.mp hs).1⟩

theorem takesUp_ofLayer (h : forall name, l.aesthetics.contains name = true ->
      scales.contains name = true) : TakesUp scales l (ofLayer scales l) where
  mark := rfl
  properties := rfl
  covers := contains_iff_scaled_or_unscaled scales l
  disjoint := not_contains_scaled_and_unscaled scales l
  numbers := by
    intro name xs hxs
    rcases Table.contains_iff.mp (h name (Table.contains_iff.mpr ⟨_, hxs⟩)) with ⟨scale, hscale⟩
    exact ⟨scale, hscale, find?_scaled_eq_some_iff.mpr ⟨_, scale, xs, hxs, hscale, rfl, rfl⟩⟩
  texts := by
    intro name s hs
    rcases find?_unscaled_eq_some_iff.mp hs with ⟨hcarried, hnone⟩
    refine ⟨?_, hcarried⟩
    cases s with
    | texts ss => rfl
    | numbers xs =>
        rcases Table.contains_iff.mp (h name (Table.contains_iff.mpr ⟨_, hcarried⟩)) with
          ⟨scale, hscale⟩
        rw [place?_eq_some_iff.mpr ⟨scale, xs, hscale, rfl, rfl⟩] at hnone
        cases hnone

end SceneLayer

namespace Axis

variable {s : Scale num}

theorem ticks_ofScale (h : s.labels.length = s.breaks.length) :
    (ofScale s).ticks = s.breaks.map s.place := by
  have hbreaks : (s.breaks.zip s.labels).map Prod.fst = s.breaks :=
    List.map_fst_zip (Nat.le_of_eq h.symm)
  change (List.map _ (s.breaks.zip s.labels)).map Prod.fst = _
  rw [List.map_map]
  conv => rhs; rw [← hbreaks, List.map_map]
  rfl

theorem labels_ofScale (h : s.labels.length = s.breaks.length) :
    (ofScale s).labels = s.labels := by
  change (List.map _ (s.breaks.zip s.labels)).map Prod.snd = _
  rw [List.map_map]
  exact List.map_snd_zip (Nat.le_of_eq h)

end Axis
end LayeredPlot
