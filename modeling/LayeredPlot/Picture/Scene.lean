import LayeredPlot.Plot.Compiled

/-!
# Scenes

A scene is a compiled plot whose numbers have been placed by their scales in the
unit square, with the origin at the lower left.  Series without a scale stay as
they are.
-/

namespace LayeredPlot

structure Axis (num : Type) where
  ticks : List num
  labels : List String
  deriving DecidableEq, Repr

structure SceneLayer (num : Type) where
  mark : Mark
  scaled : Table (List num)
  unscaled : Table (Series num)
  properties : Table (Cell num)
  deriving DecidableEq

structure Scene (num : Type) where
  layers : List (SceneLayer num)
  xAxis : Option (Axis num)
  yAxis : Option (Axis num)
  deriving DecidableEq

namespace Axis

variable {num : Type} [Scalar num]

def ofScale (s : Scale num) : Axis num where
  ticks := s.ticks.map Prod.fst
  labels := s.ticks.map Prod.snd

end Axis

namespace SceneLayer

variable {num : Type}

def points? (l : SceneLayer num) : Option (List (num × num)) :=
  match l.scaled.find? "x", l.scaled.find? "y" with
  | some xs, some ys => some (xs.zip ys)
  | _, _ => none

def value? (l : SceneLayer num) (aesthetic : String) (row : Nat) : Option (Cell num) :=
  match (l.unscaled.find? aesthetic).bind fun s => s.cell? row with
  | some c => some c
  | none => l.properties.find? aesthetic

variable [Scalar num]

def place? (scales : Table (Scale num)) (name : String) (s : Series num) : Option (List num) :=
  match scales.find? name, s.numbers? with
  | some scale, some xs => some (xs.map scale.place)
  | _, _ => none

def ofLayer (scales : Table (Scale num)) (l : ResolvedLayer num) : SceneLayer num where
  mark := l.mark
  scaled := l.aesthetics.filterMap (place? scales)
  unscaled := l.aesthetics.filter fun name s => (place? scales name s).isNone
  properties := l.properties

end SceneLayer

namespace CompiledPlot

variable {num : Type} [Scalar num]

def scene (plot : CompiledPlot num) : Scene num where
  layers := plot.layers.map (SceneLayer.ofLayer plot.scales)
  xAxis := (plot.scales.find? "x").map Axis.ofScale
  yAxis := (plot.scales.find? "y").map Axis.ofScale

end CompiledPlot
end LayeredPlot
