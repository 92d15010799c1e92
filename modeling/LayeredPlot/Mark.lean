/-!
# Marks

A mark is what a layer draws for the rows of its data.
-/

namespace LayeredPlot

inductive Mark
  | point
  | line
  deriving DecidableEq, Repr

namespace Mark

def name : Mark -> String
  | point => "point"
  | line => "line"

end Mark
end LayeredPlot
