import LayeredPlot.Error
import LayeredPlot.Limits
import LayeredPlot.Table

/-!
# Scale declarations

A plot can declare the scale of an aesthetic in parts: its limits, its breaks
and the labels of its breaks.  Parts of one scale can be declared in different
places, but each of them only once.
-/

namespace LayeredPlot

structure ContinuousDeclaration (num : Type) where
  limits : Option (Limits num)
  breaks : Option (List num)
  labels : Option (List String)
  deriving DecidableEq, Repr

structure DiscreteDeclaration (num : Type) where
  breaks : Option (List num)
  labels : Option (List String)
  order : Option (List String)
  deriving DecidableEq, Repr

inductive ScaleDeclaration (num : Type)
  | continuous (d : ContinuousDeclaration num)
  | discrete (d : DiscreteDeclaration num)
  deriving DecidableEq, Repr

abbrev ScaleDeclarations (num : Type) := Table (ScaleDeclaration num)

namespace ContinuousDeclaration

variable {num : Type}

def empty : ContinuousDeclaration num where
  limits := none
  breaks := none
  labels := none

end ContinuousDeclaration

namespace ScaleDeclaration

variable {num : Type}

def mergeField {part : Type} (scale : String) (field : ScaleField) :
    Option part -> Option part -> Except (PlotError num) (Option part)
  | some _, some _ => throw (.duplicateScaleField scale field)
  | p, none => pure p
  | none, p => pure p

def merge (scale : String) :
    ScaleDeclaration num -> ScaleDeclaration num -> Except (PlotError num) (ScaleDeclaration num)
  | continuous d, continuous e => do
      let limits <- mergeField scale .limits d.limits e.limits
      let breaks <- mergeField scale .breaks d.breaks e.breaks
      let labels <- mergeField scale .labels d.labels e.labels
      pure (continuous { limits := limits, breaks := breaks, labels := labels })
  | discrete _, discrete _ => throw (.unimplemented .mergingDiscreteScales)
  | _, _ => throw (.scaleKindMismatch scale)

end ScaleDeclaration

namespace ScaleDeclarations

variable {num : Type}

def mergeEntry (first merged : ScaleDeclarations num) (entry : String × ScaleDeclaration num) :
    Except (PlotError num) (ScaleDeclarations num) :=
  match first.find? entry.1 with
  | none => pure (merged.insert entry.1 entry.2)
  | some d => merged.insert entry.1 <$> d.merge entry.1 entry.2

def merge (first second : ScaleDeclarations num) :
    Except (PlotError num) (ScaleDeclarations num) :=
  second.entries.foldlM (mergeEntry first) first

end ScaleDeclarations
end LayeredPlot
