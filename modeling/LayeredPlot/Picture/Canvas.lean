import LayeredPlot.Picture.Shape

/-!
# Canvases

A canvas has a size and holds the shapes that were last drawn on it.  Drawing a
scene first makes sure that the canvas has room for a panel, then wipes it, and
then draws guides and layers one after another.  A layer that cannot be drawn
ends the drawing; what was drawn before it stays.
-/

namespace LayeredPlot

structure Canvas (num : Type) where
  width : Nat
  height : Nat
  shapes : List (Shape num)
  deriving DecidableEq, Repr

namespace Canvas

variable {num : Type}

def blank (width height : Nat) : Canvas num where
  width := width
  height := height
  shapes := []

def standard : Canvas num :=
  blank 800 600

variable [Scalar num]

def layerShapes (p : Panel num) : List (SceneLayer num) ->
    List (Shape num) × Except (PlotError num) Unit
  | [] => ([], pure ())
  | l :: ls =>
      match l.shapes p with
      | .error e => ([], throw e)
      | .ok drawn =>
          let (rest, result) := layerShapes p ls
          (drawn ++ rest, result)

/-- The canvas after drawing a scene, and whether all of it could be drawn. -/
def draw (c : Canvas num) (scene : Scene num) : Canvas num × Except (PlotError num) Unit :=
  match Panel.ofSize? c.width c.height with
  | none => (c, throw (.drawing (.noRoom c.width c.height)))
  | some p =>
      let (drawn, result) := layerShapes p scene.layers
      ({ c with shapes := p.guides scene ++ drawn }, result)

end Canvas
end LayeredPlot
