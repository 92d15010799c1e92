import LayeredPlot.Data.Frame
import LayeredPlot.Table

/-!
# Mappings

A mapping says where the values of each aesthetic come from: from the data, most
often from one of its columns, from a series given with the plot, or from a
constant.  Evaluated over a frame it gives a series under each name.
-/

namespace LayeredPlot

inductive Source (num : Type)
  | constant (c : Cell num)
  | series (s : Series num)
  | derived (read : Frame num -> Except (PlotError num) (Series num))

abbrev Mapping (num : Type) := Table (Source num)

def Source.column {num : Type} [Scalar num] (key : ColumnKey) : Source num :=
  .derived fun f => f.get key

namespace Mapping

variable {num : Type}

/-- The union of two mappings, which may not share a name; of several shared ones the first is
reported. -/
def merge (m n : Mapping num) : Except (PlotError num) (Mapping num) :=
  match m.names.find? n.contains with
  | some name => throw (.duplicateAesthetic name)
  | none => pure (m.insertAll n.entries)

def draw (f : Frame num) (drawn : Table (Series num)) (entry : String × Source num) :
    Except (PlotError num) (Table (Series num)) :=
  match entry.2 with
  | .constant _ => pure drawn
  | .series s => pure (drawn.insert entry.1 s)
  | .derived read => drawn.insert entry.1 <$> read f

def repeatConstant (rows : Nat) (drawn : Table (Series num)) (entry : String × Source num) :
    Table (Series num) :=
  match entry.2 with
  | .constant c =>
      match Series.replicate rows c with
      | some s => drawn.insert entry.1 s
      | none => drawn
  | _ => drawn

def longest (drawn : Table (Series num)) : Nat :=
  drawn.items.foldl (fun n s => max n s.length) 0

/-- The series of all sources over a frame.  A constant is repeated for the longest series of the
sources that are not constants. -/
def evaluate (m : Mapping num) (f : Frame num) : Except (PlotError num) (Table (Series num)) := do
  let drawn <- m.entries.foldlM (draw f) Table.empty
  pure (m.entries.foldl (repeatConstant (longest drawn)) drawn)

end Mapping
end LayeredPlot
