import LayeredPlot.Plot.Basic
import LayeredPlot.Scale.Basic

/-!
# Compiled plots

Compiling a plot finds values for the aesthetics of all layers and a scale for
every aesthetic that a layer carries.  The scale of an aesthetic that is not
declared has limits around the values of all layers; that of a declared one is
resolved over all values together.
-/

namespace LayeredPlot

structure CompiledPlot (num : Type) where
  layers : List (ResolvedLayer num)
  scales : Table (Scale num)
  deriving DecidableEq

namespace Series

variable {num : Type}

def agree (all : List (Series num)) : Bool :=
  all.all fun s => some s.type = all.head?.map type

/-- All numbers of several series, or the first series that is not made of numbers. -/
def concat (all : List (Series num)) : Series num :=
  match all.find? fun s => s.numbers?.isNone with
  | some s => s
  | none => numbers (all.flatMap fun s => s.numbers?.getD [])

end Series

namespace Plot

variable {num : Type} [Scalar num]

def carriedUnder (layers : List (ResolvedLayer num)) (name : String) : List (Series num) :=
  layers.filterMap fun l => l.aesthetics.find? name

def carried (layers : List (ResolvedLayer num)) : Table (List (Series num)) :=
  Table.ofList ((layers.flatMap fun l => l.aesthetics.names).map fun name =>
    (name, carriedUnder layers name))

def limitsAround (margin : num) (all : List (Series num)) : Limits num :=
  (all.filterMap Series.numbers?).foldl (fun l xs => l.union (Limits.around margin xs))
    Limits.nothing

def inferDeclaration (name : String) (all : List (Series num)) (settings : Settings num) :
    Except (PlotError num) (ScaleDeclaration num) :=
  if !Series.agree all then throw (.mixedAestheticTypes name)
  else if all.any fun s => s.numbers?.isNone then throw (.unimplemented .discreteData)
  else
    pure (.continuous
      { limits := some (limitsAround settings.inferredMargin all), breaks := none, labels := none })

variable [NumberText num]

def addInferred (settings : Settings num) (scales : Table (Scale num))
    (entry : String × List (Series num)) : Except (PlotError num) (Table (Scale num)) := do
  let d <- inferDeclaration entry.1 entry.2 settings
  let s <- d.resolve none settings
  pure (scales.insert entry.1 s)

def addDeclared (declared : ScaleDeclarations num) (settings : Settings num)
    (scales : Table (Scale num)) (entry : String × List (Series num)) :
    Except (PlotError num) (Table (Scale num)) :=
  match declared.find? entry.1 with
  | none => pure scales
  | some d => scales.insert entry.1 <$> d.resolve (some (Series.concat entry.2)) settings

def resolveScales (declared : ScaleDeclarations num) (carried : Table (List (Series num)))
    (settings : Settings num) : Except (PlotError num) (Table (Scale num)) := do
  let inferred <-
    (carried.filter fun name _ => !declared.contains name).entries.foldlM (addInferred settings)
      Table.empty
  (carried.filter fun name _ => declared.contains name).entries.foldlM
    (addDeclared declared settings) inferred

/-- Compiles a plot over its own data, or over the given data if it has none. -/
def compile (plot : Plot num) (frame : Frame num) (settings : Settings num) :
    Except (PlotError num) (CompiledPlot num) := do
  let frame := plot.frame.getD frame
  let shared <- match plot.mapping with
    | some m => m.evaluate frame
    | none => pure Table.empty
  let layers <- plot.layers.mapM fun l => l.resolve frame shared
  let scales <- resolveScales (plot.scales.getD Table.empty) (carried layers) settings
  pure { layers := layers, scales := scales }

end Plot

namespace CompiledPlot

variable {num : Type} [Scalar num] [NumberText num]

def ofParts (frame : Frame num) (parts : List (PlotPart num)) (settings : Settings num) :
    Except (PlotError num) (CompiledPlot num) := do
  let plot <- Plot.ofParts parts
  plot.compile frame settings

end CompiledPlot
end LayeredPlot
