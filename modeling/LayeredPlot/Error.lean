import LayeredPlot.Mark
import LayeredPlot.Number.Text

/-!
# Errors

Every way in which a plot can fail is a cause with the data that its message
shows.  The wording of all messages is in one function.
-/

namespace LayeredPlot

inductive ScaleField
  | limits
  | breaks
  | labels
  deriving DecidableEq, Repr

inductive Feature
  | discreteScales
  | discreteData
  | mergingDiscreteScales
  deriving DecidableEq, Repr

inductive TickOptionFault (num : Type)
  | targetBelowTwo (target : Nat)
  | noNiceSteps
  | badNiceStep (step : num)
  deriving DecidableEq, Repr

inductive DrawingFault
  | noRoom (width height : Nat)
  | unscaledPositions (mark : Mark)
  deriving DecidableEq, Repr

inductive PlotError (num : Type)
  | duplicateAesthetic (name : String)
  | duplicateScaleField (scale : String) (field : ScaleField)
  | scaleKindMismatch (scale : String)
  | mixedAestheticTypes (name : String)
  | discreteDataOnContinuousScale
  | noValuesForScale
  | missingAesthetic (mark : Mark) (name : String)
  | unimplemented (feature : Feature)
  | ticksExhausted (low high : num)
  | invalidTickOptions (fault : TickOptionFault num)
  | labelCountMismatch (breaks labels : Nat)
  | unknownColumn (name : String)
  | columnIndexOutOfRange (index columnCount : Nat)
  | duplicateColumn (name : String)
  | mixedColumn (name : String)
  | columnLengthMismatch (name : String) (expected actual : Nat)
  | drawing (fault : DrawingFault)
  deriving DecidableEq, Repr

namespace ScaleField

def name : ScaleField -> String
  | limits => "limits"
  | breaks => "breaks"
  | labels => "labels"

end ScaleField

namespace Feature

def name : Feature -> String
  | discreteScales => "discrete scales"
  | discreteData => "discrete data"
  | mergingDiscreteScales => "merging discrete scales"

end Feature

namespace TickOptionFault

variable {num : Type} [NumberText num]

def message : TickOptionFault num -> String
  | targetBelowTwo target => "target tick count " ++ naturalText target ++ " is below 2"
  | noNiceSteps => "nice_steps must not be empty"
  | badNiceStep step => "nice step " ++ NumberText.plain step ++ " must be positive"

end TickOptionFault

namespace DrawingFault

def message : DrawingFault -> String
  | noRoom width height =>
      naturalText width ++ "x" ++ naturalText height ++ " leaves no room for the panel"
  | unscaledPositions mark => mark.name ++ " layer has no scaled x/y positions"

end DrawingFault

namespace PlotError

variable {num : Type} [NumberText num]

def message : PlotError num -> String
  | duplicateAesthetic name => "more than 1 specification for aesthetic " ++ name
  | duplicateScaleField scale field =>
      "for scale '" ++ scale ++ "', " ++ field.name ++ " specified more than once"
  | scaleKindMismatch scale =>
      "cannot combine continuous and discrete features on scale '" ++ scale ++ "'"
  | mixedAestheticTypes name =>
      "for aesthetic " ++ name ++ ", both discrete and continuous data given"
  | discreteDataOnContinuousScale => "cannot compute continuous scale on discrete data"
  | noValuesForScale => "cannot compute limits for scale without values"
  | missingAesthetic mark name => "geom " ++ mark.name ++ " requires the aesthetic " ++ name
  | unimplemented feature => feature.name ++ " not implemented"
  | ticksExhausted low high =>
      "couldn't find a reasonable set of breaks for [" ++ NumberText.plain low ++ ", "
        ++ NumberText.plain high ++ "]"
  | invalidTickOptions fault => "invalid break configuration: " ++ fault.message
  | labelCountMismatch breaks labels =>
      "scale has " ++ naturalText breaks ++ " breaks but " ++ naturalText labels ++ " labels"
  | unknownColumn name => "no column named '" ++ name ++ "'"
  | columnIndexOutOfRange index columnCount =>
      "column index " ++ naturalText index ++ " out of range (" ++ naturalText columnCount
        ++ " columns)"
  | duplicateColumn name => "duplicate column '" ++ name ++ "'"
  | mixedColumn name => "column '" ++ name ++ "' mixes value types"
  | columnLengthMismatch name expected actual =>
      "Data length mismatch: column '" ++ name ++ "' has " ++ naturalText actual
        ++ " rows, expected " ++ naturalText expected
  | drawing fault => "Rendering error: " ++ fault.message

end PlotError
end LayeredPlot
