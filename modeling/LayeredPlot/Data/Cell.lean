/-!
# Cells

A cell is one entry of a column, the value of a constant or the value of a
property.
-/

namespace LayeredPlot

inductive CellType
  | text
  | number
  | flag
  | missing
  deriving DecidableEq, Repr

inductive Cell (num : Type)
  | number (x : num)
  | text (s : String)
  | flag (b : Bool)
  | missing
  deriving DecidableEq, Repr

namespace CellType

def name : CellType -> String
  | text => "string"
  | number => "number"
  | flag => "boolean"
  | missing => "null"

end CellType

namespace Cell

variable {num : Type}

def type : Cell num -> CellType
  | number _ => .number
  | text _ => .text
  | flag _ => .flag
  | missing => .missing

def number? : Cell num -> Option num
  | number x => some x
  | _ => none

def text? : Cell num -> Option String
  | text s => some s
  | _ => none

def flagText : Cell num -> String
  | flag true => "true"
  | flag false => "false"
  | _ => ""

end Cell
end LayeredPlot
