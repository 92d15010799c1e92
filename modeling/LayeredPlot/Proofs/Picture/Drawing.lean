import LayeredPlot.Number.Exact
import LayeredPlot.Picture.Canvas

/-!
# What a drawing leaves on the canvas

A canvas without room for a panel is left as it is.  On any other canvas the old
shapes are gone once a drawing has begun: a drawing that stops at a layer leaves
the guides and the layers before it.
-/

namespace LayeredPlot

variable {num : Type} [Scalar num]

namespace SceneLayer

variable {p : Panel num} {l : SceneLayer num}

theorem shapes_of_points?_eq_none (h : l.points? = none) :
    l.shapes p = .error (.drawing (.unscaledPositions l.mark)) := by
  unfold shapes
  rw [h]
  rfl

theorem exists_shapes_eq_ok (h : l.points? ≠ none) : exists drawn, l.shapes p = .ok drawn := by
  rcases Option.ne_none_iff_exists'.mp h with ⟨positions, hpositions⟩
  unfold shapes
  rw [hpositions]
  cases l.mark with
  | point => exact ⟨_, rfl⟩
  | line => exact ⟨_, rfl⟩

end SceneLayer

namespace Scene

structure StopsAt (scene : Scene num) (before : List (SceneLayer num)) (l : SceneLayer num) :
    Prop where
  layers : exists after, scene.layers = before ++ l :: after
  drawable : forall l', l' ∈ before -> l'.points? ≠ none
  unplaced : l.points? = none

end Scene

namespace Canvas

variable {p : Panel num} {layers before after : List (SceneLayer num)} {l : SceneLayer num}

/-!
## Layers one after another
-/

theorem layerShapes_cons_of_ok {drawn : List (Shape num)} (h : l.shapes p = .ok drawn) :
    layerShapes p (l :: layers)
      = (drawn ++ (layerShapes p layers).1, (layerShapes p layers).2) := by
  rw [layerShapes, h]

theorem layerShapes_cons_of_error {e : PlotError num} (h : l.shapes p = .error e) :
    layerShapes p (l :: layers) = ([], .error e) := by
  rw [layerShapes, h]
  rfl

theorem layerShapes_append_of_unplaced (hbefore : forall l', l' ∈ before -> l'.points? ≠ none)
    (hl : l.points? = none) :
    layerShapes p (before ++ l :: after)
      = ((layerShapes p before).1, .error (.drawing (.unscaledPositions l.mark))) := by
  induction before with
  | nil => exact layerShapes_cons_of_error (SceneLayer.shapes_of_points?_eq_none hl)
  | cons first rest ih =>
      rcases SceneLayer.exists_shapes_eq_ok (p := p) (hbefore first List.mem_cons_self) with
        ⟨drawn, hdrawn⟩
      have hrest := ih fun l' hl' => hbefore l' (List.mem_cons_of_mem first hl')
      rw [List.cons_append, layerShapes_cons_of_ok hdrawn, layerShapes_cons_of_ok hdrawn, hrest]

theorem exists_split_of_layerShapes_eq_error {e : PlotError num}
    (h : (layerShapes p layers).2 = .error e) :
    exists before l after, layers = before ++ l :: after
      ∧ (forall l', l' ∈ before -> l'.points? ≠ none) ∧ l.points? = none := by
  induction layers with
  | nil => cases h
  | cons first rest ih =>
      cases hpoints : first.points? with
      | none => exact ⟨[], first, rest, rfl, fun l' hl' => absurd hl' List.not_mem_nil, hpoints⟩
      | some positions =>
          have hne : first.points? ≠ none := by
            rw [hpoints]
            exact Option.some_ne_none positions
          rcases SceneLayer.exists_shapes_eq_ok (p := p) hne with ⟨drawn, hdrawn⟩
          rw [layerShapes_cons_of_ok hdrawn] at h
          rcases ih h with ⟨before, l, after, rfl, hbefore, hl⟩
          refine ⟨first :: before, l, after, rfl, ?_, hl⟩
          intro l' hl'
          rcases List.mem_cons.mp hl' with rfl | hl'
          · exact hne
          · exact hbefore l' hl'

/-!
## Scenes
-/

def IsTooSmall (c : Canvas num) : Prop :=
  (Panel.ofSize? c.width c.height : Option (Panel num)) = none

def shapesUpTo (p : Panel num) (scene : Scene num) (before : List (SceneLayer num)) :
    List (Shape num) :=
  p.guides scene ++ (layerShapes p before).1

variable {c : Canvas num} {scene : Scene num}

theorem draw_of_isTooSmall (h : c.IsTooSmall) :
    c.draw scene = (c, .error (.drawing (.noRoom c.width c.height))) := by
  change (Panel.ofSize? c.width c.height : Option (Panel num)) = none at h
  unfold draw
  rw [h]
  rfl

theorem draw_of_room (h : Panel.ofSize? c.width c.height = some p) :
    c.draw scene
      = ({ c with shapes := shapesUpTo p scene scene.layers },
          (layerShapes p scene.layers).2) := by
  unfold draw
  rw [h]
  rfl

theorem draw_of_stopsAt (h : Panel.ofSize? c.width c.height = some p)
    (hstops : scene.StopsAt before l) :
    c.draw scene
      = ({ c with shapes := shapesUpTo p scene before },
          .error (.drawing (.unscaledPositions l.mark))) := by
  rcases hstops.layers with ⟨after, hlayers⟩
  rw [draw_of_room h, shapesUpTo, hlayers,
    layerShapes_append_of_unplaced hstops.drawable hstops.unplaced]
  rfl

theorem isTooSmall_or_stopsAt {e : PlotError num} (h : (c.draw scene).2 = .error e) :
    c.IsTooSmall ∨ exists (p : Panel num) (before : List (SceneLayer num)) (l : SceneLayer num),
      Panel.ofSize? c.width c.height = some p ∧ scene.StopsAt before l := by
  cases hroom : (Panel.ofSize? c.width c.height : Option (Panel num)) with
  | none => exact Or.inl hroom
  | some p =>
      rw [draw_of_room hroom] at h
      rcases exists_split_of_layerShapes_eq_error h with ⟨before, l, after, hlayers, hbefore, hl⟩
      exact Or.inr ⟨p, before, l, rfl, ⟨after, hlayers⟩, hbefore, hl⟩

theorem failed_draw_iff {left : Canvas num} {e : PlotError num} :
    c.draw scene = (left, .error e) ↔
      c.IsTooSmall ∧ e = .drawing (.noRoom c.width c.height) ∧ left = c ∨
        exists (p : Panel num) (before : List (SceneLayer num)) (l : SceneLayer num),
          Panel.ofSize? c.width c.height = some p ∧ scene.StopsAt before l ∧
            e = .drawing (.unscaledPositions l.mark) ∧
            left = { c with shapes := shapesUpTo p scene before } := by
  constructor
  · intro h
    rcases isTooSmall_or_stopsAt (congrArg Prod.snd h) with
      hsmall | ⟨p, before, l, hroom, hstops⟩
    · rw [draw_of_isTooSmall hsmall] at h
      cases h
      exact Or.inl ⟨hsmall, rfl, rfl⟩
    · rw [draw_of_stopsAt hroom hstops] at h
      cases h
      exact Or.inr ⟨p, before, l, hroom, hstops, rfl, rfl⟩
  · intro h
    rcases h with ⟨hsmall, rfl, rfl⟩ | ⟨p, before, l, hroom, hstops, rfl, rfl⟩
    · exact draw_of_isTooSmall hsmall
    · exact draw_of_stopsAt hroom hstops

/-- A failed drawing leaves a canvas without room as it was, and any other one with the guides and
the layers before the one that it stopped at.  So the old picture stays exactly if there was no
room, or if those shapes happen to be the picture. -/
theorem draw_eq_error_iff (c : Canvas num) (scene : Scene num) (left : Canvas num)
    (e : PlotError num) :
    (c.draw scene = (left, .error e) ↔
      c.IsTooSmall ∧ e = .drawing (.noRoom c.width c.height) ∧ left = c ∨
        exists (p : Panel num) (before : List (SceneLayer num)) (l : SceneLayer num),
          Panel.ofSize? c.width c.height = some p ∧ scene.StopsAt before l ∧
            e = .drawing (.unscaledPositions l.mark) ∧
            left = { c with shapes := shapesUpTo p scene before }) ∧
    (c.draw scene = (left, .error e) ->
      (left.shapes = c.shapes ↔
        c.IsTooSmall ∨
          exists (p : Panel num) (before : List (SceneLayer num)) (l : SceneLayer num),
            Panel.ofSize? c.width c.height = some p ∧ scene.StopsAt before l ∧
              shapesUpTo p scene before = c.shapes)) := by
  refine ⟨failed_draw_iff, ?_⟩
  intro h
  constructor
  · intro hshapes
    rcases failed_draw_iff.mp h with ⟨hsmall, _, _⟩ | ⟨p, before, l, hroom, hstops, _, rfl⟩
    · exact Or.inl hsmall
    · exact Or.inr ⟨p, before, l, hroom, hstops, hshapes⟩
  · intro hsame
    rcases hsame with hsmall | ⟨p, before, l, hroom, hstops, hsame⟩
    · rw [draw_of_isTooSmall hsmall] at h
      cases h
      rfl
    · rw [draw_of_stopsAt hroom hstops] at h
      cases h
      exact hsame

/-!
## A picture that is lost
-/

def cornerScene : Scene Exact where
  layers :=
    [{ mark := .point, scaled := Table.ofList [("x", [.value 0]), ("y", [.value 1])],
       unscaled := Table.empty, properties := Table.empty }]
  xAxis := none
  yAxis := none

def halfPlacedScene : Scene Exact where
  layers :=
    [{ mark := .point, scaled := Table.ofList [("x", [.value 0])], unscaled := Table.empty,
       properties := Table.empty }]
  xAxis := none
  yAxis := none

def cornerCanvas : Canvas Exact :=
  (Canvas.standard.draw cornerScene).1

theorem exists_draw_halfPlacedScene_eq_error :
    exists left e, cornerCanvas.draw halfPlacedScene = (left, .error e) ∧
      left.shapes ≠ cornerCanvas.shapes := by
  have hrun : (cornerCanvas.draw halfPlacedScene).1.shapes ≠ cornerCanvas.shapes
      ∧ (cornerCanvas.draw halfPlacedScene).2.isOk = false := by
    decide +kernel
  rcases hrun with ⟨hlost, herror⟩
  cases hdraw : cornerCanvas.draw halfPlacedScene with
  | mk left result =>
      rw [hdraw] at hlost herror
      cases result with
      | ok done => cases herror
      | error e => exact ⟨left, e, rfl, hlost⟩

theorem draw_eq_error_iff_cornerCanvas :
    exists left e, cornerCanvas.draw halfPlacedScene = (left, .error e) ∧
      ¬ (cornerCanvas.IsTooSmall ∨
        exists (p : Panel Exact) (before : List (SceneLayer Exact)) (l : SceneLayer Exact),
          Panel.ofSize? cornerCanvas.width cornerCanvas.height = some p ∧
            halfPlacedScene.StopsAt before l ∧
            shapesUpTo p halfPlacedScene before = cornerCanvas.shapes) := by
  rcases exists_draw_halfPlacedScene_eq_error with ⟨left, e, hdraw, hlost⟩
  refine ⟨left, e, hdraw, ?_⟩
  intro hkept
  exact hlost (((draw_eq_error_iff cornerCanvas halfPlacedScene left e).2 hdraw).mpr hkept)

theorem not_forall_failed_draw_keeps_shapes :
    ¬ forall (c : Canvas Exact) (scene : Scene Exact) (left : Canvas Exact)
        (e : PlotError Exact), c.draw scene = (left, .error e) -> left.shapes = c.shapes := by
  intro hall
  rcases exists_draw_halfPlacedScene_eq_error with ⟨left, e, hdraw, hlost⟩
  exact hlost (hall cornerCanvas halfPlacedScene left e hdraw)

end Canvas
end LayeredPlot
