import LayeredPlot.Proofs.Number.Exact
import LayeredPlot.Proofs.Number.Whole
import LayeredPlot.Proofs.Picture.Drawing
import LayeredPlot.Proofs.Table

/-!
# Every row is drawn once

On a canvas with room for a panel a scene can be drawn exactly if all of its layers have places for
their rows.  Then the picture has nothing but the two guides and, layer by layer, a circle for each
row of a layer of points and one polyline for a layer of lines.
-/

namespace LayeredPlot

/-!
## Rows and fallbacks
-/

/-- What comes of two lists row by row, as far as both of them go. -/
structure IsRowByRow {α β γ : Type} (R : Nat -> α -> β -> γ -> Prop) (as : List α) (bs : List β)
    (cs : List γ) : Prop where
  length : cs.length = min as.length bs.length
  row : forall i a b c, as[i]? = some a -> bs[i]? = some b -> cs[i]? = some c -> R i a b c

theorem isRowByRow_iff_eq_map_zipIdx {α β γ : Type} {R : Nat -> α -> β -> γ -> Prop}
    {f : Nat -> α -> β -> γ} (hR : forall i a b c, R i a b c ↔ c = f i a b) {as : List α}
    {bs : List β} {cs : List γ} :
    IsRowByRow R as bs cs ↔ cs = (as.zip bs).zipIdx.map fun (pair, i) => f i pair.1 pair.2 := by
  constructor
  · intro h
    refine List.ext_getElem (by simp [h.length]) ?_
    intro i hi hzip
    have hlength := h.length
    have ha : i < as.length := by omega
    have hb : i < bs.length := by omega
    have hrow := h.row i _ _ _ (List.getElem?_eq_getElem ha) (List.getElem?_eq_getElem hb)
      (List.getElem?_eq_getElem hi)
    rw [(hR i _ _ _).mp hrow]
    simp
  · intro h
    subst h
    refine ⟨by simp, ?_⟩
    intro i a b c ha hb hc
    have hpair : (as.zip bs)[i]? = some (a, b) := List.getElem?_zip_eq_some.mpr ⟨ha, hb⟩
    rw [List.getElem?_map, List.getElem?_zipIdx, hpair, Nat.zero_add] at hc
    exact (hR i a b c).mpr (Option.some.inj hc).symm

theorem isRowByRow_iff_eq_map_zip {α β γ : Type} {R : α -> β -> γ -> Prop} {f : α -> β -> γ}
    (hR : forall a b c, R a b c ↔ c = f a b) {as : List α} {bs : List β} {cs : List γ} :
    IsRowByRow (fun _ => R) as bs cs ↔ cs = (as.zip bs).map fun pair => f pair.1 pair.2 := by
  rw [isRowByRow_iff_eq_map_zipIdx fun _ => hR]
  conv => rhs; rw [← List.zipIdx_map_fst 0 (as.zip bs), List.map_map]
  rfl

inductive FoundOr {α : Type} (P : α -> Prop) (fallback : α) : α -> Prop
  | found {x : α} (h : P x) : FoundOr P fallback x
  | fallback (h : forall x, ¬ P x) : FoundOr P fallback fallback

theorem getD_eq_iff_foundOr {α : Type} {o : Option α} {P : α -> Prop}
    (hP : forall x, o = some x ↔ P x) {fallback x : α} :
    o.getD fallback = x ↔ FoundOr P fallback x := by
  constructor
  · intro h
    cases o with
    | none =>
        rw [← h]
        exact FoundOr.fallback fun y hy => Option.some_ne_none y ((hP y).mpr hy).symm
    | some y => exact FoundOr.found ((hP x).mp (congrArg some h))
  · intro h
    cases h with
    | found hx => rw [(hP x).mpr hx, Option.getD_some]
    | fallback hnone =>
        rw [Option.eq_none_iff_forall_ne_some.mpr fun y hy => hnone y ((hP y).mp hy),
          Option.getD_none]

variable {num : Type}

theorem Series.cell?_eq_none_iff {s : Series num} {row : Nat} :
    s.cell? row = none ↔ s.length ≤ row := by
  cases s with
  | texts ss => exact Option.map_eq_none_iff.trans List.getElem?_eq_none_iff
  | numbers xs => exact Option.map_eq_none_iff.trans List.getElem?_eq_none_iff

theorem Cell.number?_eq_some_iff {c : Cell num} {x : num} :
    c.number? = some x ↔ c = .number x := by
  cases c <;> simp [Cell.number?]

theorem Cell.text?_eq_some_iff {c : Cell num} {s : String} : c.text? = some s ↔ c = .text s := by
  cases c <;> simp [Cell.text?]

/-!
## What a row says
-/

namespace SceneLayer

inductive Shows (l : SceneLayer num) (aesthetic : String) (row : Nat) : Cell num -> Prop
  | number {xs : List num} {x : num} (hseries : l.unscaled.find? aesthetic = some (.numbers xs))
      (hrow : xs[row]? = some x) : Shows l aesthetic row (.number x)
  | text {ss : List String} {s : String} (hseries : l.unscaled.find? aesthetic = some (.texts ss))
      (hrow : ss[row]? = some s) : Shows l aesthetic row (.text s)
  | property {c : Cell num}
      (hseries : forall s, l.unscaled.find? aesthetic = some s -> s.length ≤ row)
      (hproperty : l.properties.find? aesthetic = some c) : Shows l aesthetic row c

def HasNumber (l : SceneLayer num) (aesthetic : String) (row : Nat) (fallback : num) :
    num -> Prop :=
  FoundOr (fun x => l.Shows aesthetic row (.number x)) fallback

def HasColour (l : SceneLayer num) (row : Nat) : String -> Prop :=
  FoundOr (fun s => l.Shows "colour" row (.text s)) "black"

variable {l : SceneLayer num} {aesthetic : String} {row : Nat} {c : Cell num}

theorem value?_eq_or :
    l.value? aesthetic row
      = ((l.unscaled.find? aesthetic).bind fun s => s.cell? row).or
          (l.properties.find? aesthetic) := by
  unfold value?
  cases (l.unscaled.find? aesthetic).bind fun s => s.cell? row with
  | none => rfl
  | some c => rfl

theorem value?_eq_some_iff : l.value? aesthetic row = some c ↔ l.Shows aesthetic row c := by
  rw [value?_eq_or, Option.or_eq_some_iff, Option.bind_eq_some_iff, Option.bind_eq_none_iff]
  constructor
  · intro h
    rcases h with ⟨s, hseries, hcell⟩ | ⟨hnone, hproperty⟩
    · cases s with
      | texts ss =>
          rcases Option.map_eq_some_iff.mp hcell with ⟨s, hrow, rfl⟩
          exact Shows.text hseries hrow
      | numbers xs =>
          rcases Option.map_eq_some_iff.mp hcell with ⟨x, hrow, rfl⟩
          exact Shows.number hseries hrow
    · exact Shows.property (fun s hs => Series.cell?_eq_none_iff.mp (hnone s hs)) hproperty
  · intro h
    cases h with
    | number hseries hrow =>
        exact Or.inl ⟨_, hseries, Option.map_eq_some_iff.mpr ⟨_, hrow, rfl⟩⟩
    | text hseries hrow =>
        exact Or.inl ⟨_, hseries, Option.map_eq_some_iff.mpr ⟨_, hrow, rfl⟩⟩
    | property hseries hproperty =>
        exact Or.inr ⟨fun s hs => Series.cell?_eq_none_iff.mpr (hseries s hs), hproperty⟩

theorem number_eq_iff {fallback x : num} :
    l.number aesthetic row fallback = x ↔ l.HasNumber aesthetic row fallback x := by
  refine getD_eq_iff_foundOr fun y => ?_
  simp only [Option.bind_eq_some_iff, Cell.number?_eq_some_iff, exists_eq_right,
    value?_eq_some_iff]

theorem colour_eq_iff {s : String} : l.colour row = s ↔ l.HasColour row s := by
  refine getD_eq_iff_foundOr fun s' => ?_
  simp only [Option.bind_eq_some_iff, Cell.text?_eq_some_iff, exists_eq_right, value?_eq_some_iff]

/-!
## Places
-/

def rowCount (l : SceneLayer num) : Nat :=
  min ((l.scaled.find? "x").getD []).length ((l.scaled.find? "y").getD []).length

def IsPlaced (l : SceneLayer num) : Prop :=
  l.scaled.contains "x" = true ∧ l.scaled.contains "y" = true

instance (l : SceneLayer num) : Decidable l.IsPlaced :=
  inferInstanceAs (Decidable (_ ∧ _))

theorem points?_eq_some_iff {positions : List (num × num)} :
    l.points? = some positions ↔
      exists us vs, l.scaled.find? "x" = some us ∧ l.scaled.find? "y" = some vs ∧
        us.zip vs = positions := by
  unfold points?
  cases l.scaled.find? "x" with
  | none => simp
  | some us =>
      cases l.scaled.find? "y" with
      | none => simp
      | some vs => simp

theorem points?_ne_none_iff : l.points? ≠ none ↔ l.IsPlaced := by
  unfold IsPlaced
  rw [Option.ne_none_iff_exists', Table.contains_iff, Table.contains_iff]
  constructor
  · intro h
    rcases h with ⟨positions, hpositions⟩
    rcases points?_eq_some_iff.mp hpositions with ⟨us, vs, hx, hy, _⟩
    exact ⟨⟨us, hx⟩, ⟨vs, hy⟩⟩
  · intro h
    rcases h with ⟨⟨us, hx⟩, ⟨vs, hy⟩⟩
    exact ⟨_, points?_eq_some_iff.mpr ⟨us, vs, hx, hy, rfl⟩⟩

end SceneLayer

/-!
## Guides
-/

namespace Axis

def pairCount : Option (Axis num) -> Nat
  | some a => min a.ticks.length a.labels.length
  | none => 0

end Axis

namespace Panel

variable {shapes : List (Shape num)}

inductive IsGuide (tick : num -> String -> Shape num × Shape num -> Prop) :
    Option (Axis num) -> List (Shape num) -> Prop
  | none : IsGuide tick none []
  | some {a : Axis num} {pairs : List (Shape num × Shape num)}
      (h : IsRowByRow (fun _ => tick) a.ticks a.labels pairs) :
      IsGuide tick (some a) (pairs.flatMap fun pair => [pair.1, pair.2])

theorem IsGuide.length {tick : num -> String -> Shape num × Shape num -> Prop}
    {axis : Option (Axis num)} (h : IsGuide tick axis shapes) :
    shapes.length = 2 * Axis.pairCount axis := by
  cases h with
  | none => rfl
  | some h => simp [Axis.pairCount, ← h.length, Nat.mul_comm]

theorem guide_eq_iff {tick : num -> String -> Shape num × Shape num -> Prop}
    {f : num -> String -> Shape num × Shape num}
    (hf : forall t label pair, tick t label pair ↔ pair = f t label) {axis : Option (Axis num)} :
    guide (fun t label => [(f t label).1, (f t label).2]) axis = shapes ↔
      IsGuide tick axis shapes := by
  cases axis with
  | none =>
      constructor
      · intro h
        exact h ▸ IsGuide.none
      · intro h
        cases h
        rfl
  | some a =>
      have hguide : guide (fun t label => [(f t label).1, (f t label).2]) (some a)
          = ((a.ticks.zip a.labels).map fun pair => f pair.1 pair.2).flatMap
              fun pair => [pair.1, pair.2] := by
        rw [List.flatMap_map]
        rfl
      rw [hguide]
      constructor
      · intro h
        exact h ▸ IsGuide.some ((isRowByRow_iff_eq_map_zip hf).mpr rfl)
      · intro h
        cases h with
        | some h => rw [(isRowByRow_iff_eq_map_zip hf).mp h]

end Panel

variable [Scalar num]

namespace Panel

variable {shapes : List (Shape num)}

def IsXTick (p : Panel num) (t : num) (label : String) (shapes : Shape num × Shape num) : Prop :=
  shapes.1
      = .line (p.left + t * p.width) p.top (p.left + t * p.width) (p.top + p.height) "#c0c0c0" 1.0 ∧
    shapes.2
      = .text (p.left + t * p.width) (p.top + p.height + fontSize + labelGap) label .middle

def IsYTick (p : Panel num) (t : num) (label : String) (shapes : Shape num × Shape num) : Prop :=
  shapes.1
      = .line p.left (p.top + (1.0 - t) * p.height) (p.left + p.width)
          (p.top + (1.0 - t) * p.height) "#c0c0c0" 1.0 ∧
    shapes.2
      = .text (p.left - labelGap) (p.top + (1.0 - t) * p.height + fontSize / 2.0) label .finish

theorem guide_xTick_eq_iff {p : Panel num} {axis : Option (Axis num)} :
    guide p.xTick axis = shapes ↔ IsGuide p.IsXTick axis shapes :=
  guide_eq_iff (f := fun t label =>
    (gridLine (p.column t) p.top (p.column t) (p.top + p.height),
      .text (p.column t) (p.top + p.height + fontSize + labelGap) label .middle))
    fun _ _ _ => Prod.ext_iff.symm

theorem guide_yTick_eq_iff {p : Panel num} {axis : Option (Axis num)} :
    guide p.yTick axis = shapes ↔ IsGuide p.IsYTick axis shapes :=
  guide_eq_iff (f := fun t label =>
    (gridLine p.left (p.row t) (p.left + p.width) (p.row t),
      .text (p.left - labelGap) (p.row t + fontSize / 2.0) label .finish))
    fun _ _ _ => Prod.ext_iff.symm

end Panel

/-!
## Layers
-/

namespace Panel

def IsPoint (p : Panel num) (l : SceneLayer num) (row : Nat) (u v : num) (shape : Shape num) :
    Prop :=
  exists size fill opacity, l.HasNumber "size" row 1.5 size ∧ l.HasColour row fill ∧
    l.HasNumber "alpha" row 1.0 opacity ∧
    shape = .circle (p.left + u * p.width) (p.top + (1.0 - v) * p.height) (size * 2.0) fill opacity

/-- The shapes of a layer: a circle for each row of a layer of points, and one polyline through
all rows of a layer of lines, which looks as its first row says. -/
inductive IsLayer (p : Panel num) (l : SceneLayer num) : List (Shape num) -> Prop
  | points {us vs : List num} {circles : List (Shape num)} (hmark : l.mark = .point)
      (hx : l.scaled.find? "x" = some us) (hy : l.scaled.find? "y" = some vs)
      (hrows : IsRowByRow (p.IsPoint l) us vs circles) : IsLayer p l circles
  | line {us vs : List num} {corners : List (num × num)} {stroke : String} {size opacity : num}
      (hmark : l.mark = .line)
      (hx : l.scaled.find? "x" = some us) (hy : l.scaled.find? "y" = some vs)
      (hrows : IsRowByRow (fun _ u v corner =>
        corner = (p.left + u * p.width, p.top + (1.0 - v) * p.height)) us vs corners)
      (hstroke : l.HasColour 0 stroke) (hsize : l.HasNumber "size" 0 0.5 size)
      (hopacity : l.HasNumber "alpha" 0 1.0 opacity) :
      IsLayer p l [.polyline corners stroke (size * 2.0) opacity]

end Panel

namespace SceneLayer

variable {p : Panel num} {l : SceneLayer num} {drawn : List (Shape num)}

theorem isPoint_iff {row : Nat} {u v : num} {shape : Shape num} :
    p.IsPoint l row u v shape ↔ shape = l.circle p row (u, v) := by
  constructor
  · intro h
    rcases h with ⟨size, fill, opacity, hsize, hfill, hopacity, rfl⟩
    rw [circle, number_eq_iff.mpr hsize, colour_eq_iff.mpr hfill, number_eq_iff.mpr hopacity]
    rfl
  · intro h
    exact ⟨_, _, _, number_eq_iff.mp rfl, colour_eq_iff.mp rfl, number_eq_iff.mp rfl, h⟩

theorem shapes_eq_ok_iff : l.shapes p = .ok drawn ↔ p.IsLayer l drawn := by
  constructor
  · intro h
    unfold shapes at h
    split at h
    next => cases h
    next positions hpositions =>
        rcases points?_eq_some_iff.mp hpositions with ⟨us, vs, hx, hy, rfl⟩
        split at h
        next hmark =>
            cases h
            exact .points hmark hx hy
              ((isRowByRow_iff_eq_map_zipIdx fun _ _ _ _ => isPoint_iff).mpr rfl)
        next hmark =>
            cases h
            exact .line hmark hx hy ((isRowByRow_iff_eq_map_zip fun _ _ _ => Iff.rfl).mpr rfl)
              (colour_eq_iff.mp rfl) (number_eq_iff.mp rfl) (number_eq_iff.mp rfl)
  · intro h
    unfold shapes
    cases h with
    | points hmark hx hy hrows =>
        rw [points?_eq_some_iff.mpr ⟨_, _, hx, hy, rfl⟩, hmark,
          (isRowByRow_iff_eq_map_zipIdx fun _ _ _ _ => isPoint_iff).mp hrows]
        rfl
    | line hmark hx hy hrows hstroke hsize hopacity =>
        rw [points?_eq_some_iff.mpr ⟨_, _, hx, hy, rfl⟩, hmark,
          (isRowByRow_iff_eq_map_zip fun _ _ _ => Iff.rfl).mp hrows,
          ← colour_eq_iff.mpr hstroke, ← number_eq_iff.mpr hsize, ← number_eq_iff.mpr hopacity]
        rfl

end SceneLayer

/-!
## Pictures
-/

namespace Canvas

variable {p : Panel num} {layers : List (SceneLayer num)}

theorem layerShapes_eq_ok_iff {drawn : List (Shape num)} :
    layerShapes p layers = (drawn, .ok ()) ↔
      exists each, List.Forall₂ p.IsLayer layers each ∧ each.flatten = drawn := by
  induction layers generalizing drawn with
  | nil =>
      constructor
      · intro h
        cases h
        exact ⟨[], .nil, rfl⟩
      · intro h
        rcases h with ⟨each, hnil, rfl⟩
        cases hnil
        rfl
  | cons l layers ih =>
      constructor
      · intro h
        cases hl : l.shapes p with
        | error e =>
            rw [layerShapes_cons_of_error hl] at h
            cases h
        | ok first =>
            rw [layerShapes_cons_of_ok hl] at h
            rcases Prod.mk.inj h with ⟨hdrawn, hresult⟩
            rcases ih.mp (Prod.ext rfl hresult) with ⟨each, heach, hflatten⟩
            refine ⟨first :: each, .cons (SceneLayer.shapes_eq_ok_iff.mp hl) heach, ?_⟩
            rw [List.flatten_cons, hflatten, hdrawn]
      · intro h
        rcases h with ⟨_, hcons, rfl⟩
        cases hcons with
        | cons hfirst heach =>
            rw [layerShapes_cons_of_ok (SceneLayer.shapes_eq_ok_iff.mpr hfirst),
              ih.mpr ⟨_, heach, rfl⟩]
            rfl

theorem layerShapes_snd_eq_ok_iff :
    (layerShapes p layers).2 = .ok () ↔ forall l, l ∈ layers -> l.IsPlaced := by
  induction layers with
  | nil => exact iff_of_true rfl fun l hl => absurd hl List.not_mem_nil
  | cons first rest ih =>
      rw [List.forall_mem_cons, ← ih]
      by_cases hfirst : first.IsPlaced
      · rcases SceneLayer.exists_shapes_eq_ok (p := p)
          (SceneLayer.points?_ne_none_iff.mpr hfirst) with ⟨drawn, hdrawn⟩
        rw [layerShapes_cons_of_ok hdrawn]
        exact (and_iff_right hfirst).symm
      · have hnone : first.points? = none :=
          not_not.mp fun hne => hfirst (SceneLayer.points?_ne_none_iff.mp hne)
        rw [layerShapes_cons_of_error (SceneLayer.shapes_of_points?_eq_none hnone)]
        exact iff_of_false (fun herror => by cases herror) fun hall => hfirst hall.1

end Canvas

def Panel.IsPicture (p : Panel num) (scene : Scene num) (shapes : List (Shape num)) : Prop :=
  exists xs ys each, IsGuide p.IsXTick scene.xAxis xs ∧ IsGuide p.IsYTick scene.yAxis ys ∧
    List.Forall₂ p.IsLayer scene.layers each ∧ shapes = xs ++ ys ++ each.flatten

namespace Scene

def shapeCount (scene : Scene num) : Nat :=
  2 * (Axis.pairCount scene.xAxis + Axis.pairCount scene.yAxis)
    + ((scene.layers.filter fun l => l.mark = .point).map SceneLayer.rowCount).sum
    + (scene.layers.filter fun l => l.mark = .line).length

end Scene

namespace Panel

variable {p : Panel num} {l : SceneLayer num} {shapes : List (Shape num)} {scene : Scene num}

theorem IsLayer.length_of_point (h : p.IsLayer l shapes) (hmark : l.mark = .point) :
    shapes.length = l.rowCount := by
  cases h with
  | points _ hx hy hrows =>
      rw [hrows.length, SceneLayer.rowCount, hx, hy]
      rfl
  | line hline =>
      rw [hline] at hmark
      cases hmark

theorem IsLayer.length_of_line (h : p.IsLayer l shapes) (hmark : l.mark = .line) :
    shapes.length = 1 := by
  cases h with
  | points hpoint =>
      rw [hpoint] at hmark
      cases hmark
  | line => rfl

theorem length_flatten_of_isLayer {layers : List (SceneLayer num)}
    {each : List (List (Shape num))} (h : List.Forall₂ p.IsLayer layers each) :
    each.flatten.length
      = ((layers.filter fun l => l.mark = .point).map SceneLayer.rowCount).sum
        + (layers.filter fun l => l.mark = .line).length := by
  induction h with
  | nil => rfl
  | @cons l shapes layers each hl _ ih =>
      rw [List.flatten_cons, List.length_append, ih]
      cases hmark : l.mark with
      | point =>
          rw [hl.length_of_point hmark]
          simp [hmark, Nat.add_assoc]
      | line =>
          rw [hl.length_of_line hmark, Nat.add_left_comm, Nat.add_comm 1]
          simp [hmark]

theorem IsPicture.length (h : p.IsPicture scene shapes) : shapes.length = scene.shapeCount := by
  rcases h with ⟨xs, ys, each, hxs, hys, heach, rfl⟩
  rw [List.length_append, List.length_append, hxs.length, hys.length,
    length_flatten_of_isLayer heach, Scene.shapeCount, Nat.mul_add, Nat.add_assoc, Nat.add_assoc,
    Nat.add_assoc]

end Panel

namespace Canvas

variable {p : Panel num} {c drawn : Canvas num} {scene : Scene num}

theorem draw_eq_ok_iff_of_room (h : Panel.ofSize? c.width c.height = some p) :
    c.draw scene = (drawn, .ok ()) ↔
      drawn.width = c.width ∧ drawn.height = c.height ∧ p.IsPicture scene drawn.shapes := by
  rw [draw_of_room h]
  constructor
  · intro hdraw
    rcases Prod.mk.inj hdraw with ⟨rfl, hresult⟩
    rcases layerShapes_eq_ok_iff.mp (Prod.ext rfl hresult) with ⟨each, heach, hflatten⟩
    refine ⟨rfl, rfl, _, _, each, Panel.guide_xTick_eq_iff.mp rfl, Panel.guide_yTick_eq_iff.mp rfl,
      heach, ?_⟩
    rw [hflatten]
    rfl
  · intro hdrawn
    rcases hdrawn with ⟨hwidth, hheight, xs, ys, each, hxs, hys, heach, hshapes⟩
    have hlayers := layerShapes_eq_ok_iff.mpr ⟨each, heach, rfl⟩
    cases drawn
    subst hwidth hheight hshapes
    rw [shapesUpTo, hlayers, Panel.guides, Panel.guide_xTick_eq_iff.mpr hxs,
      Panel.guide_yTick_eq_iff.mpr hys]

theorem exists_draw_eq_ok_iff_of_room (h : Panel.ofSize? c.width c.height = some p) :
    (exists drawn, c.draw scene = (drawn, .ok ())) ↔ forall l, l ∈ scene.layers -> l.IsPlaced := by
  rw [draw_of_room h, ← layerShapes_snd_eq_ok_iff (p := p)]
  constructor
  · intro hdraw
    rcases hdraw with ⟨drawn, hdrawn⟩
    exact (Prod.mk.inj hdrawn).2
  · intro hresult
    exact ⟨_, Prod.ext rfl hresult⟩

end Canvas

/-!
## Pixels
-/

/-- Numbers that count the pixels of a canvas without rounding. -/
class CountsPixels (num : Type) [Scalar num] : Prop where
  margin_eq : (Panel.margin : num) = Scalar.ofNat 10
  margins_eq : (2.0 * Panel.margin : num) = Scalar.ofNat 20
  guideSpace_eq : (Panel.guideSpace : num) = Scalar.ofNat 30
  corner_eq : (Panel.margin + Panel.guideSpace : num) = Scalar.ofNat 40
  sub_eq : forall {m n : Nat}, 0 < m -> m < n -> n < Nat.pow 2 32 ->
    (Scalar.ofNat n - Scalar.ofNat m : num) = Scalar.ofNat (n - m)
  not_le_zero : forall {n : Nat}, 0 < n -> n < Nat.pow 2 32 -> ¬ (Scalar.ofNat n : num) ≤ 0.0

instance : CountsPixels Float where
  margin_eq := by decide +kernel
  margins_eq := by decide +kernel
  guideSpace_eq := by decide +kernel
  corner_eq := by decide +kernel
  sub_eq hm hlt hn := Double.ofNat_sub hm hlt (hn.trans (by decide))
  not_le_zero hpos hn :=
    (Scalar.LawfulOrder.lt_iff_le_not_le.mp (Double.zero_lt_ofNat hpos (hn.trans (by decide)))).2

instance : CountsPixels Exact where
  margin_eq := by decide
  margins_eq := by decide +kernel
  guideSpace_eq := by decide
  corner_eq := by decide +kernel
  sub_eq _ hlt _ := by
    rw [Exact.ofNat_eq, Exact.ofNat_eq, Exact.ofNat_eq, Exact.value_sub, Nat.cast_sub hlt.le]
  not_le_zero hpos _ := by
    rw [Exact.ofNat_eq, Exact.zero_eq, Exact.value_le_value, not_le]
    exact Nat.cast_pos.mpr hpos

namespace Panel

def inside (width height : Nat) : Panel num where
  left := Scalar.ofNat 40
  top := Scalar.ofNat 10
  width := Scalar.ofNat (width - 50)
  height := Scalar.ofNat (height - 50)

variable [CountsPixels num] {width height : Nat}

theorem side_eq {n : Nat} (h : 50 < n) (hword : n < Nat.pow 2 32) :
    (Scalar.ofNat n - 2.0 * margin - guideSpace : num) = Scalar.ofNat (n - 50) := by
  have hrest : n - 20 < Nat.pow 2 32 := lt_of_le_of_lt (Nat.sub_le n 20) hword
  rw [CountsPixels.margins_eq, CountsPixels.guideSpace_eq,
    CountsPixels.sub_eq (by decide) (by omega) hword,
    CountsPixels.sub_eq (by decide) (by omega) hrest, Nat.sub_sub]

theorem ofSize?_eq_inside (hwidth : 50 < width) (hheight : 50 < height)
    (hwidthWord : width < Nat.pow 2 32) (hheightWord : height < Nat.pow 2 32) :
    (ofSize? width height : Option (Panel num)) = some (inside width height) := by
  have hside : forall {n : Nat}, 50 < n -> n < Nat.pow 2 32 ->
      ¬ (Scalar.ofNat (n - 50) : num) ≤ 0.0 := by
    intro n h hword
    exact CountsPixels.not_le_zero (Nat.sub_pos_of_lt h) (lt_of_le_of_lt (Nat.sub_le n 50) hword)
  simp only [ofSize?, side_eq hwidth hwidthWord, side_eq hheight hheightWord,
    CountsPixels.corner_eq]
  rw [if_neg (not_or_intro (hside hwidth hwidthWord) (hside hheight hheightWord)),
    CountsPixels.margin_eq]
  rfl

end Panel

/-!
## Drawing
-/

namespace Canvas

variable [CountsPixels num] {c : Canvas num}

/-- On a canvas with room for a panel exactly the scenes with places for the rows of all layers can
be drawn, and what stands on the canvas then is their picture: each tick with a label and each row
once and in order, and nothing else.  The sides of a canvas are words of 32 bits. -/
theorem draw_eq_ok_iff (hwidth : 50 < c.width) (hheight : 50 < c.height)
    (hwidthWord : c.width < Nat.pow 2 32) (hheightWord : c.height < Nat.pow 2 32)
    (scene : Scene num) :
    ((exists drawn, c.draw scene = (drawn, .ok ())) ↔
      forall l, l ∈ scene.layers -> l.IsPlaced) ∧
    (forall drawn, c.draw scene = (drawn, .ok ()) ↔
      drawn.width = c.width ∧ drawn.height = c.height ∧
        (Panel.inside c.width c.height).IsPicture scene drawn.shapes) ∧
    forall drawn, c.draw scene = (drawn, .ok ()) -> drawn.shapes.length = scene.shapeCount := by
  have hroom : (Panel.ofSize? c.width c.height : Option (Panel num))
      = some (Panel.inside c.width c.height) :=
    Panel.ofSize?_eq_inside hwidth hheight hwidthWord hheightWord
  refine ⟨exists_draw_eq_ok_iff_of_room hroom, fun drawn => draw_eq_ok_iff_of_room hroom, ?_⟩
  intro drawn hdrawn
  rcases (draw_eq_ok_iff_of_room hroom).mp hdrawn with ⟨_, _, hpicture⟩
  exact hpicture.length

def unevenScene : Scene Float where
  layers :=
    [{ mark := .point, scaled := Table.ofList [("x", [0.0, 1.0]), ("y", [0.0, 0.5, 1.0])],
       unscaled := Table.ofList [("colour", .texts ["red"])],
       properties := Table.ofList [("colour", .text "blue"), ("size", .text "large")] },
     { mark := .line, scaled := Table.ofList [("x", [0.0, 1.0]), ("y", [1.0, 0.0])],
       unscaled := Table.empty, properties := Table.ofList [("size", .number 2.0)] }]
  xAxis := some { ticks := [0.0, 1.0], labels := ["none", "all", "more"] }
  yAxis := none

theorem draw_eq_ok_iff_unevenScene :
    exists drawn, standard.draw unevenScene = (drawn, .ok ()) ∧ drawn.shapes.length = 7 := by
  rcases draw_eq_ok_iff (c := (standard : Canvas Float)) (by decide) (by decide) (by decide)
    (by decide) unevenScene with ⟨hplaced, _, hcount⟩
  rcases hplaced.mpr (by decide +kernel) with ⟨drawn, hdrawn⟩
  have hseven : unevenScene.shapeCount = 7 := by decide +kernel
  exact ⟨drawn, hdrawn, (hcount drawn hdrawn).trans hseven⟩

end Canvas
end LayeredPlot
