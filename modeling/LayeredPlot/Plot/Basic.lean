import LayeredPlot.Layer.Basic
import LayeredPlot.Scale.Declaration

/-!
# Plots

A plot is declared part by part: mappings for all layers, declarations of scales
and layers.  Put together, its mappings may not share a name and its scale
declarations have to agree, while layers keep their order.
-/

namespace LayeredPlot

inductive PlotPart (num : Type)
  | mapping (m : Mapping num)
  | scales (ds : ScaleDeclarations num)
  | layer (l : Layer num)

structure Plot (num : Type) where
  frame : Option (Frame num)
  mapping : Option (Mapping num)
  scales : Option (ScaleDeclarations num)
  layers : List (Layer num)

namespace PlotPart

variable {num : Type}

def scale (name : String) (d : ScaleDeclaration num) : PlotPart num :=
  .scales (Table.singleton name d)

end PlotPart

namespace Plot

variable {num : Type}

def empty : Plot num where
  frame := none
  mapping := none
  scales := none
  layers := []

def add (plot : Plot num) : PlotPart num -> Except (PlotError num) (Plot num)
  | .mapping m =>
      match plot.mapping with
      | some current => do
          let merged <- current.merge m
          pure { plot with mapping := some merged }
      | none => pure { plot with mapping := some m }
  | .scales ds =>
      match plot.scales with
      | some current => do
          let merged <- current.merge ds
          pure { plot with scales := some merged }
      | none => pure { plot with scales := some ds }
  | .layer l => pure { plot with layers := plot.layers ++ [l] }

def ofParts (parts : List (PlotPart num)) : Except (PlotError num) (Plot num) :=
  parts.foldlM add empty

end Plot
end LayeredPlot
