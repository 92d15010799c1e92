import LayeredPlot.Layer.Mapping

/-!
# Layers

A layer draws one kind of mark for the rows of some data.  Its mark knows a few
aesthetics by name, each under a rule that says where to look for a value: in
the mapping and the properties of the layer itself, in the mapping of the whole
plot, or in a fallback that belongs to the mark.
-/

namespace LayeredPlot

inductive Guide
  | xAxis
  | yAxis
  | legend (name : String)
  deriving DecidableEq, Repr

/-- How a mark treats an aesthetic. -/
structure AestheticRule (num : Type) where
  name : String
  required : Bool
  inheritable : Bool
  guide : Guide
  continuous : Option Bool
  fallback : Option (Cell num)
  deriving DecidableEq, Repr

structure Layer (num : Type) where
  mark : Mark
  frame : Option (Frame num)
  mapping : Option (Mapping num)
  properties : Table (Cell num)

structure ResolvedLayer (num : Type) where
  mark : Mark
  aesthetics : Table (Series num)
  properties : Table (Cell num)
  deriving DecidableEq

namespace AestheticRule

variable {num : Type}

def position (name : String) (guide : Guide) : AestheticRule num where
  name := name
  required := true
  inheritable := true
  guide := guide
  continuous := some true
  fallback := none

def explained (name : String) (fallback : Cell num) : AestheticRule num where
  name := name
  required := false
  inheritable := true
  guide := .legend name
  continuous := none
  fallback := some fallback

end AestheticRule

namespace Mark

variable {num : Type} [Scalar num]

def rules : Mark -> List (AestheticRule num)
  | point =>
      [.position "x" .xAxis, .position "y" .yAxis, .explained "colour" (.text "black"),
        .explained "alpha" (.number 1.0), .explained "shape" (.number 19.0),
        .explained "size" (.number 1.5)]
  | line =>
      [.position "x" .xAxis, .position "y" .yAxis, .explained "colour" (.text "black"),
        .explained "alpha" (.number 1.0), .explained "size" (.number 0.5)]

def rule? (mark : Mark) (name : String) : Option (AestheticRule num) :=
  mark.rules.find? fun r => r.name = name

end Mark

namespace ResolvedLayer

variable {num : Type}

def fill (shared : Table (Series num)) (layer : ResolvedLayer num) (rule : AestheticRule num) :
    Except (PlotError num) (ResolvedLayer num) :=
  if layer.aesthetics.contains rule.name || layer.properties.contains rule.name then pure layer
  else match (if rule.inheritable then shared.find? rule.name else none) with
  | some s => pure { layer with aesthetics := layer.aesthetics.insert rule.name s }
  | none =>
      if rule.required then throw (.missingAesthetic layer.mark rule.name)
      else match rule.fallback with
      | some c => pure { layer with properties := layer.properties.insert rule.name c }
      | none => pure layer

end ResolvedLayer

namespace Layer

variable {num : Type} [Scalar num]

def ownSeries (layer : Layer num) (plotFrame : Frame num) :
    Except (PlotError num) (Table (Series num)) :=
  match layer.mapping with
  | some m => m.evaluate (layer.frame.getD plotFrame)
  | none => pure Table.empty

def resolve (layer : Layer num) (plotFrame : Frame num) (shared : Table (Series num)) :
    Except (PlotError num) (ResolvedLayer num) := do
  let own <- layer.ownSeries plotFrame
  layer.mark.rules.foldlM (ResolvedLayer.fill shared)
    { mark := layer.mark, aesthetics := own, properties := layer.properties }

end Layer
end LayeredPlot
