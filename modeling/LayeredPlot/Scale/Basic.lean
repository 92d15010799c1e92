import LayeredPlot.Data.Series
import LayeredPlot.Scale.Declaration
import LayeredPlot.Settings.Basic
import LayeredPlot.Tick.Search

/-!
# Scales

A scale carries the numbers of an aesthetic to the unit interval and shows some
of them, its breaks, with labels.  Whatever a declaration leaves out is derived:
limits from the values, breaks from the limits, labels from the breaks.  The
limits are then moved out to the first and the last break.
-/

namespace LayeredPlot

structure Scale (num : Type) where
  limits : Limits num
  breaks : List num
  labels : List String
  deriving DecidableEq, Repr

namespace Scale

variable {num : Type} [Scalar num]

def place (s : Scale num) (x : num) : num :=
  s.limits.normalize x

def ticks (s : Scale num) : List (num × String) :=
  (s.breaks.zip s.labels).map fun (b, label) => (s.place b, label)

end Scale

/-- The label of a break without one: zero as a single digit, a number from a millionth up to below
10 ^ 21 in full, and any other with a power of ten. -/
def breakLabel {num : Type} [Scalar num] [NumberText num] (x : num) : String :=
  if Scalar.Same x 0.0 then "0"
  else if (1e-6 : num) ≤ Scalar.magnitude x ∧ Scalar.magnitude x < (1e21 : num) then
    NumberText.plain x
  else NumberText.scientific x

namespace ContinuousDeclaration

variable {num : Type} [Scalar num]

def startLimits (d : ContinuousDeclaration num) (values : Option (Series num))
    (settings : Settings num) : Except (PlotError num) (Limits num) :=
  match d.limits with
  | some l => pure l
  | none =>
      match values with
      | none => throw .noValuesForScale
      | some s =>
          match s.numbers? with
          | none => throw .discreteDataOnContinuousScale
          | some xs => pure (Limits.around settings.margin xs)

/-- Limits between which ticks can be found: a single number is moved away from by one. -/
def searchLimits (l : Limits num) : Limits num :=
  if Scalar.Same l.low l.high then { low := l.low - 1.0, high := l.high + 1.0 } else l

@[specialize] def chooseBreaks (d : ContinuousDeclaration num) (settings : Settings num)
    (l : Limits num) : Except (PlotError num) (List num) :=
  match d.breaks with
  | some bs => pure bs
  | none => do
      let m := searchLimits l
      let p <- settings.ticks.chooseTicks m.low m.high settings.targetTicks
      pure p.ticks

def chooseLabels [NumberText num] (d : ContinuousDeclaration num) (breaks : List num) :
    Except (PlotError num) (List String) :=
  match d.labels with
  | some ls =>
      if ls.length = breaks.length then pure ls
      else throw (.labelCountMismatch breaks.length ls.length)
  | none => pure (breaks.map breakLabel)

def showBreaks (breaks : List num) (l : Limits num) : Limits num :=
  match breaks.head?, breaks.getLast? with
  | some first, some last =>
      { low := Scalar.lesser l.low first, high := Scalar.greater l.high last }
  | _, _ => l

end ContinuousDeclaration

namespace ScaleDeclaration

variable {num : Type} [Scalar num] [NumberText num]

def resolve (d : ScaleDeclaration num) (values : Option (Series num)) (settings : Settings num) :
    Except (PlotError num) (Scale num) :=
  match d with
  | .discrete _ => throw (.unimplemented .discreteScales)
  | .continuous c => do
      let limits <- c.startLimits values settings
      let breaks <- c.chooseBreaks settings limits
      let labels <- c.chooseLabels breaks
      pure { limits := ContinuousDeclaration.showBreaks breaks limits, breaks := breaks,
             labels := labels }

/-- Scales for all wanted names over the series of their aesthetics.  A name that is not declared
has an empty continuous declaration. -/
def resolveAll (series : Table (Series num)) (wanted : List String)
    (given : ScaleDeclarations num) : Except (PlotError num) (Table (Scale num)) :=
  wanted.foldlM
    (fun scales name => do
      let d := (given.find? name).getD (.continuous .empty)
      let s <- d.resolve (series.find? name) Settings.standard
      pure (scales.insert name s))
    Table.empty

end ScaleDeclaration
end LayeredPlot
