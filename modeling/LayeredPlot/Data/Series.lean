import LayeredPlot.Data.Cell

/-!
# Series

A series is the list of values that an aesthetic takes, one for each row.  All
of them are numbers or all of them are texts.
-/

namespace LayeredPlot

inductive Series (num : Type)
  | texts (ss : List String)
  | numbers (xs : List num)
  deriving DecidableEq, Repr

namespace Series

variable {num : Type}

def type : Series num -> CellType
  | texts _ => .text
  | numbers _ => .number

def length : Series num -> Nat
  | texts ss => ss.length
  | numbers xs => xs.length

def isEmpty (s : Series num) : Bool :=
  s.length = 0

def numbers? : Series num -> Option (List num)
  | numbers xs => some xs
  | texts _ => none

def texts? : Series num -> Option (List String)
  | texts ss => some ss
  | numbers _ => none

def cell? (s : Series num) (row : Nat) : Option (Cell num) :=
  match s with
  | texts ss => ss[row]?.map Cell.text
  | numbers xs => xs[row]?.map Cell.number

def replicate (rows : Nat) : Cell num -> Option (Series num)
  | .number x => some (numbers (List.replicate rows x))
  | .text s => some (texts (List.replicate rows s))
  | .flag _ => none
  | .missing => none

end Series
end LayeredPlot
