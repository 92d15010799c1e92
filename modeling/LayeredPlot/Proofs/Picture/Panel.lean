import LayeredPlot.Picture.Canvas
import LayeredPlot.Proofs.Limits

/-!
# Drawing inside the panel

A scene whose places are all in the unit square is drawn inside the panel of the
picture: circles, lines and polylines have their points between its edges.
-/

namespace LayeredPlot

open Exact

/-!
## The rectangle of the panel
-/

def InPanel (width height : Nat) (x y : Exact) : Prop :=
  value 40 ≤ x ∧ x ≤ value (width - 10) ∧ value 10 ≤ y ∧ y ≤ value (height - 40)

/-- A shape whose points are inside the panel; texts are written beside it. -/
def Shape.IsInPanel (width height : Nat) : Shape Exact -> Prop
  | .circle x y _ _ _ => InPanel width height x y
  | .line x1 y1 x2 y2 _ _ => InPanel width height x1 y1 ∧ InPanel width height x2 y2
  | .polyline points _ _ _ => forall p, p ∈ points -> InPanel width height p.1 p.2
  | .text _ _ _ _ => True

namespace Panel

variable {width height : Nat} {p : Panel Exact}

theorem ofSize?_eq_some (h : ofSize? width height = some p) :
    0 < (width : Rat) - 50 ∧ 0 < (height : Rat) - 50 ∧
      p = { left := value 40, top := value 10, width := value (width - 50),
            height := value (height - 50) } := by
  have hmargin : (margin : Exact) = value 10 := by decide
  have hspace : (guideSpace : Exact) = value 30 := by decide
  have hsides : forall n : Nat,
      (Scalar.ofNat n : Exact) - 2.0 * margin - guideSpace = value (n - 50) := by
    intro n
    rw [hmargin, hspace, two_eq, ofNat_eq, value_mul, value_sub, value_sub]
    congr 1
    ring
  have hcorner : (margin : Exact) + guideSpace = value 40 := by
    rw [hmargin, hspace, value_add]
    norm_num
  simp only [ofSize?, hsides, hcorner, zero_eq, value_le_value] at h
  split at h
  next => cases h
  next hroom =>
      rw [not_or, not_le, not_le] at hroom
      rw [← Option.some.inj h, hmargin]
      exact ⟨hroom.1, hroom.2, rfl⟩

theorem column_between (h : ofSize? width height = some p) {u : Exact} (hu : InUnit u) :
    value 40 ≤ p.column u ∧ p.column u ≤ value (width - 10) := by
  rcases ofSize?_eq_some h with ⟨hwidth, _, rfl⟩
  rcases inUnit_iff.mp hu with ⟨q, rfl, hlow, hhigh⟩
  have hnonneg : 0 ≤ q * ((width : Rat) - 50) := mul_nonneg hlow hwidth.le
  have hle : q * ((width : Rat) - 50) ≤ 1 * (width - 50) :=
    mul_le_mul_of_nonneg_right hhigh hwidth.le
  unfold column
  rw [value_mul, value_add, value_le_value, value_le_value]
  constructor
  · linarith
  · linarith

theorem row_between (h : ofSize? width height = some p) {v : Exact} (hv : InUnit v) :
    value 10 ≤ p.row v ∧ p.row v ≤ value (height - 40) := by
  rcases ofSize?_eq_some h with ⟨_, hheight, rfl⟩
  rcases inUnit_iff.mp hv with ⟨q, rfl, hlow, hhigh⟩
  have hnonneg : 0 ≤ (1 - q) * ((height : Rat) - 50) :=
    mul_nonneg (sub_nonneg.mpr hhigh) hheight.le
  have hle : (1 - q) * ((height : Rat) - 50) ≤ 1 * (height - 50) :=
    mul_le_mul_of_nonneg_right (sub_le_self 1 hlow) hheight.le
  unfold row
  rw [one_eq, value_sub, value_mul, value_add, value_le_value, value_le_value]
  constructor
  · linarith
  · linarith

theorem inPanel (h : ofSize? width height = some p) {u v : Exact} (hu : InUnit u)
    (hv : InUnit v) : InPanel width height (p.column u) (p.row v) :=
  ⟨(column_between h hu).1, (column_between h hu).2, (row_between h hv).1, (row_between h hv).2⟩

theorem inUnit_zero : InUnit (value 0) :=
  inUnit_iff.mpr ⟨0, rfl, le_refl 0, zero_le_one⟩

theorem inUnit_one : InUnit (value 1) :=
  inUnit_iff.mpr ⟨1, rfl, zero_le_one, le_refl 1⟩

/-!
## Guides
-/

theorem edges_eq (h : ofSize? width height = some p) :
    p.left = p.column (value 0) ∧ p.left + p.width = p.column (value 1) ∧
      p.top = p.row (value 1) ∧ p.top + p.height = p.row (value 0) := by
  rcases ofSize?_eq_some h with ⟨_, _, rfl⟩
  unfold column row
  simp only [one_eq, value_sub, value_mul, value_add]
  refine ⟨?_, ?_, ?_, ?_⟩ <;> congr 1 <;> ring

theorem isInPanel_of_mem_xTick (h : ofSize? width height = some p) {t : Exact} (ht : InUnit t)
    {label : String} {shape : Shape Exact} (hshape : shape ∈ p.xTick t label) :
    shape.IsInPanel width height := by
  rcases edges_eq h with ⟨_, _, htop, hbottom⟩
  unfold xTick at hshape
  rcases List.mem_cons.mp hshape with rfl | hshape
  · constructor
    · rw [htop]
      exact inPanel h ht inUnit_one
    · rw [hbottom]
      exact inPanel h ht inUnit_zero
  · rw [List.mem_singleton.mp hshape]
    exact trivial

theorem isInPanel_of_mem_yTick (h : ofSize? width height = some p) {t : Exact} (ht : InUnit t)
    {label : String} {shape : Shape Exact} (hshape : shape ∈ p.yTick t label) :
    shape.IsInPanel width height := by
  rcases edges_eq h with ⟨hleft, hright, _, _⟩
  unfold yTick at hshape
  rcases List.mem_cons.mp hshape with rfl | hshape
  · constructor
    · rw [hleft]
      exact inPanel h inUnit_zero ht
    · rw [hright]
      exact inPanel h inUnit_one ht
  · rw [List.mem_singleton.mp hshape]
    exact trivial

theorem exists_of_mem_guide {tick : Exact -> String -> List (Shape Exact)}
    {axis : Option (Axis Exact)} {shape : Shape Exact} (h : shape ∈ guide tick axis) :
    exists a t label, axis = some a ∧ t ∈ a.ticks ∧ shape ∈ tick t label := by
  cases axis with
  | none => cases h
  | some a =>
      rcases List.mem_flatMap.mp h with ⟨⟨t, label⟩, hmem, hshape⟩
      exact ⟨a, t, label, rfl, (List.of_mem_zip hmem).1, hshape⟩

end Panel

/-!
## Layers
-/

namespace Scene

structure IsInUnit (scene : Scene Exact) : Prop where
  xTicks : forall a, scene.xAxis = some a -> forall t, t ∈ a.ticks -> InUnit t
  yTicks : forall a, scene.yAxis = some a -> forall t, t ∈ a.ticks -> InUnit t
  places : forall l, l ∈ scene.layers -> forall name us, l.scaled.find? name = some us ->
    forall u, u ∈ us -> InUnit u

end Scene

namespace SceneLayer

variable {width height : Nat} {p : Panel Exact} {l : SceneLayer Exact}

theorem inUnit_of_points?_eq_some
    (hplaces : forall name us, l.scaled.find? name = some us -> forall u, u ∈ us -> InUnit u)
    {positions : List (Exact × Exact)} (h : l.points? = some positions) {u v : Exact}
    (hmem : (u, v) ∈ positions) : InUnit u ∧ InUnit v := by
  unfold points? at h
  split at h
  next xs ys hx hy =>
      cases h
      rcases List.of_mem_zip hmem with ⟨hu, hv⟩
      exact ⟨hplaces "x" xs hx u hu, hplaces "y" ys hy v hv⟩
  next => cases h

theorem isInPanel_of_mem_shapes (hpanel : Panel.ofSize? width height = some p)
    (hplaces : forall name us, l.scaled.find? name = some us -> forall u, u ∈ us -> InUnit u)
    {drawn : List (Shape Exact)} (h : l.shapes p = .ok drawn) {shape : Shape Exact}
    (hshape : shape ∈ drawn) : shape.IsInPanel width height := by
  unfold shapes at h
  split at h
  next => cases h
  next positions hpositions =>
      split at h
      next =>
          cases h
          rcases List.mem_map.mp hshape with ⟨⟨⟨u, v⟩, row⟩, hmem, rfl⟩
          have hposition : (u, v) ∈ positions :=
            List.mem_of_getElem? (List.mem_zipIdx_iff_getElem?.mp hmem)
          rcases inUnit_of_points?_eq_some hplaces hpositions hposition with ⟨hu, hv⟩
          exact Panel.inPanel hpanel hu hv
      next =>
          cases h
          rw [List.mem_singleton.mp hshape]
          intro point hpoint
          rcases List.mem_map.mp hpoint with ⟨⟨u, v⟩, hposition, rfl⟩
          rcases inUnit_of_points?_eq_some hplaces hpositions hposition with ⟨hu, hv⟩
          exact Panel.inPanel hpanel hu hv

end SceneLayer

namespace Canvas

theorem exists_of_mem_layerShapes {p : Panel Exact} {layers : List (SceneLayer Exact)}
    {shape : Shape Exact} (h : shape ∈ (layerShapes p layers).1) :
    exists l drawn, l ∈ layers ∧ l.shapes p = .ok drawn ∧ shape ∈ drawn := by
  induction layers with
  | nil => cases h
  | cons l rest ih =>
      unfold layerShapes at h
      split at h
      next => cases h
      next drawn hdrawn =>
          rcases List.mem_append.mp h with h | h
          · exact ⟨l, drawn, List.mem_cons_self, hdrawn, h⟩
          · rcases ih h with ⟨l', drawn', hl', hdrawn', hshape⟩
            exact ⟨l', drawn', List.mem_cons_of_mem l hl', hdrawn', hshape⟩

theorem isInPanel_of_draw_eq_ok {c drawn : Canvas Exact} {scene : Scene Exact}
    (hscene : scene.IsInUnit) (h : c.draw scene = (drawn, .ok ())) {shape : Shape Exact}
    (hshape : shape ∈ drawn.shapes) : shape.IsInPanel c.width c.height := by
  unfold draw at h
  split at h
  next => cases congrArg Prod.snd h
  next p hpanel =>
      have hdrawn := congrArg (fun result => result.1.shapes) h
      rw [← hdrawn] at hshape
      rcases List.mem_append.mp hshape with hguide | hlayer
      · rcases List.mem_append.mp hguide with hguide | hguide
        · rcases Panel.exists_of_mem_guide hguide with ⟨a, t, label, ha, ht, hmem⟩
          exact Panel.isInPanel_of_mem_xTick hpanel (hscene.xTicks a ha t ht) hmem
        · rcases Panel.exists_of_mem_guide hguide with ⟨a, t, label, ha, ht, hmem⟩
          exact Panel.isInPanel_of_mem_yTick hpanel (hscene.yTicks a ha t ht) hmem
      · rcases exists_of_mem_layerShapes hlayer with ⟨l, shapes, hl, hshapes, hmem⟩
        exact SceneLayer.isInPanel_of_mem_shapes hpanel (hscene.places l hl) hshapes hmem

end Canvas
end LayeredPlot
