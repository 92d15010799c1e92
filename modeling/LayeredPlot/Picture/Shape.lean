import LayeredPlot.Picture.Scene

/-!
# Shapes

A scene is drawn into a panel of pixels as shapes: a circle for each point, one
polyline for each line, and a grid line with a label for each tick.  Rows of
pixels are counted downwards, so the second coordinate is turned over.
-/

namespace LayeredPlot

inductive Anchor
  | start
  | middle
  | finish
  deriving DecidableEq, Repr

inductive Shape (num : Type)
  | circle (x y radius : num) (fill : String) (opacity : num)
  | line (x1 y1 x2 y2 : num) (stroke : String) (width : num)
  | polyline (points : List (num × num)) (stroke : String) (width opacity : num)
  | text (x y : num) (text : String) (anchor : Anchor)
  deriving DecidableEq, Repr

structure Panel (num : Type) where
  left : num
  top : num
  width : num
  height : num
  deriving DecidableEq, Repr

namespace Panel

variable {num : Type} [Scalar num]

def margin : num := 10.0

def guideSpace : num := 30.0

def fontSize : num := 10.0

def labelGap : num := 5.0

def ofSize? (width height : Nat) : Option (Panel num) :=
  let w : num := Scalar.ofNat width - 2.0 * margin - guideSpace
  let h : num := Scalar.ofNat height - 2.0 * margin - guideSpace
  if w ≤ 0.0 ∨ h ≤ 0.0 then none
  else some { left := margin + guideSpace, top := margin, width := w, height := h }

def column (p : Panel num) (u : num) : num :=
  p.left + u * p.width

def row (p : Panel num) (v : num) : num :=
  p.top + (1.0 - v) * p.height

def gridLine (x1 y1 x2 y2 : num) : Shape num :=
  .line x1 y1 x2 y2 "#c0c0c0" 1.0

def xTick (p : Panel num) (t : num) (label : String) : List (Shape num) :=
  let x := p.column t
  [gridLine x p.top x (p.top + p.height),
    .text x (p.top + p.height + fontSize + labelGap) label .middle]

def yTick (p : Panel num) (t : num) (label : String) : List (Shape num) :=
  let y := p.row t
  [gridLine p.left y (p.left + p.width) y,
    .text (p.left - labelGap) (y + fontSize / 2.0) label .finish]

def guide (tick : num -> String -> List (Shape num)) (axis : Option (Axis num)) :
    List (Shape num) :=
  match axis with
  | some a => (a.ticks.zip a.labels).flatMap fun (t, label) => tick t label
  | none => []

def guides (p : Panel num) (scene : Scene num) : List (Shape num) :=
  guide p.xTick scene.xAxis ++ guide p.yTick scene.yAxis

end Panel

namespace SceneLayer

variable {num : Type} [Scalar num]

def number (l : SceneLayer num) (aesthetic : String) (row : Nat) (fallback : num) : num :=
  ((l.value? aesthetic row).bind Cell.number?).getD fallback

def colour (l : SceneLayer num) (row : Nat) : String :=
  ((l.value? "colour" row).bind Cell.text?).getD "black"

def circle (p : Panel num) (l : SceneLayer num) (row : Nat) (position : num × num) : Shape num :=
  .circle (p.column position.1) (p.row position.2) (l.number "size" row 1.5 * 2.0) (l.colour row)
    (l.number "alpha" row 1.0)

def polyline (p : Panel num) (l : SceneLayer num) (positions : List (num × num)) : Shape num :=
  .polyline (positions.map fun (u, v) => (p.column u, p.row v)) (l.colour 0)
    (l.number "size" 0 0.5 * 2.0) (l.number "alpha" 0 1.0)

def shapes (p : Panel num) (l : SceneLayer num) : Except (PlotError num) (List (Shape num)) :=
  match l.points? with
  | none => throw (.drawing (.unscaledPositions l.mark))
  | some positions =>
      match l.mark with
      | .point => pure (positions.zipIdx.map fun (position, row) => l.circle p row position)
      | .line => pure [l.polyline p positions]

end SceneLayer
end LayeredPlot
