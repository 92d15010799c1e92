/-!
# Tokens of YAML documents

Tokens are the scalars of a document, what goes with them and the marks between
them.  Where a list or mapping is laid out by indentation, tokens without text stand for
its start, its end and the start of each key.
-/

namespace LayeredPlot
namespace Yaml

inductive Style
  | plain
  | quoted
  | literal
  | folded
  deriving DecidableEq, Repr

/-- The parts that a document is read in.  Anchors and references to them carry a number. -/
inductive Token
  | version (major minor : Nat)
  | tagHandle (handle stem : List Char)
  | documentStart
  | documentEnd
  | blockListStart
  | blockMapStart
  | blockEnd
  | listStart
  | listEnd
  | mapStart
  | mapEnd
  | item
  | comma
  | key
  | value
  | anchor (number : Nat)
  | reference (number : Nat)
  | tag (handle suffix : List Char)
  | scalar (style : Style) (text : List Char)
  deriving DecidableEq, Repr

end Yaml
end LayeredPlot
