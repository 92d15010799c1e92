import LayeredPlot.Data.Series
import LayeredPlot.Error
import LayeredPlot.Number.Scalar

/-!
# Frames

A frame is a table of data: columns of equal length in the order in which they
were added, each with a name of its own and a type that all its cells have,
missing ones apart.  A column that does not fit is refused, and the frame stays
as it was.
-/

namespace LayeredPlot

structure Column (num : Type) where
  name : String
  type : CellType
  cells : List (Cell num)
  deriving DecidableEq, Repr

structure Frame (num : Type) where
  columns : List (Column num)
  rowCount : Nat
  deriving DecidableEq, Repr

/-- A list of values that is to become a column.  Values of one kind say what the type of the column
is, and cells of any kind leave it open. -/
inductive Addition (num : Type)
  | numbers (name : String) (xs : List num)
  | texts (name : String) (ss : List String)
  | flags (name : String) (bs : List Bool)
  | cells (name : String) (cells : List (Cell num))
  deriving DecidableEq, Repr

inductive ColumnKey
  | name (name : String)
  | index (index : Nat)
  deriving DecidableEq, Repr

namespace CellType

variable {num : Type}

def shared? : CellType -> List (Cell num) -> Option CellType
  | t, [] => some t
  | t, c :: cs =>
      if c.type = .missing then shared? t cs
      else if t = .missing then shared? c.type cs
      else if t = c.type then shared? t cs
      else none

end CellType

namespace Column

variable {num : Type} [Scalar num]

/-- The values of a column.  Missing numbers are undefined and missing texts empty; truth values
are read as texts, and a column without any cell but missing ones as numbers. -/
def series (c : Column num) : Series num :=
  match c.type with
  | .number | .missing => .numbers (c.cells.map fun v => v.number?.getD Scalar.undefined)
  | .text => .texts (c.cells.map fun v => v.text?.getD "")
  | .flag => .texts (c.cells.map Cell.flagText)

end Column

namespace Frame

variable {num : Type}

def empty : Frame num where
  columns := []
  rowCount := 0

instance : Inhabited (Frame num) := ⟨empty⟩

def ofXY (xs ys : List num) : Frame num :=
  let rows := min xs.length ys.length
  { columns :=
      [{ name := "x", type := .number, cells := (xs.take rows).map Cell.number },
        { name := "y", type := .number, cells := (ys.take rows).map Cell.number }]
    rowCount := rows }

def columnNames (f : Frame num) : List String :=
  f.columns.map Column.name

def columnTypes (f : Frame num) : List CellType :=
  f.columns.map Column.type

def columnCount (f : Frame num) : Nat :=
  f.columns.length

def named? (f : Frame num) (name : String) : Option (Column num) :=
  f.columns.find? fun c => c.name = name

def hasColumn (f : Frame num) (name : String) : Bool :=
  f.columns.any fun c => c.name = name

def cells? (f : Frame num) (name : String) : Option (List (Cell num)) :=
  (f.named? name).map Column.cells

def add (f : Frame num) (c : Column num) : Except (PlotError num) (Frame num) :=
  if f.hasColumn c.name then throw (.duplicateColumn c.name)
  else if f.columns ≠ [] ∧ c.cells.length ≠ f.rowCount then
    throw (.columnLengthMismatch c.name f.rowCount c.cells.length)
  else pure { columns := f.columns ++ [c], rowCount := c.cells.length }

def addNumbers (f : Frame num) (name : String) (xs : List num) :
    Except (PlotError num) (Frame num) :=
  f.add { name := name, type := .number, cells := xs.map Cell.number }

def addTexts (f : Frame num) (name : String) (ss : List String) :
    Except (PlotError num) (Frame num) :=
  f.add { name := name, type := .text, cells := ss.map Cell.text }

def addFlags (f : Frame num) (name : String) (bs : List Bool) :
    Except (PlotError num) (Frame num) :=
  f.add { name := name, type := .flag, cells := bs.map Cell.flag }

def addCells (f : Frame num) (name : String) (cells : List (Cell num)) :
    Except (PlotError num) (Frame num) :=
  match CellType.shared? .missing cells with
  | none => throw (.mixedColumn name)
  | some type => f.add { name := name, type := type, cells := cells }

def receive (f : Frame num) : Addition num -> Except (PlotError num) (Frame num)
  | .numbers name xs => f.addNumbers name xs
  | .texts name ss => f.addTexts name ss
  | .flags name bs => f.addFlags name bs
  | .cells name cells => f.addCells name cells

def after (f : Frame num) (a : Addition num) : Frame num × Except (PlotError num) Unit :=
  match f.receive a with
  | .ok g => (g, pure ())
  | .error e => (f, throw e)

def column (f : Frame num) : ColumnKey -> Except (PlotError num) (Column num)
  | .name name =>
      match f.named? name with
      | some c => pure c
      | none => throw (.unknownColumn name)
  | .index i =>
      match f.columns[i]? with
      | some c => pure c
      | none => throw (.columnIndexOutOfRange i f.columnCount)

def get [Scalar num] (f : Frame num) (key : ColumnKey) : Except (PlotError num) (Series num) :=
  Column.series <$> f.column key

end Frame
end LayeredPlot
