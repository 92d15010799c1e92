import LayeredPlot.Number.Text
import LayeredPlot.Yaml.Node

/-!
# Writing YAML documents

A mapping has one line for each scalar in it.  A mapping in a mapping is
indented, while the items of a list stand below the key that they belong to.  The lists
that are written hold scalars.
-/

namespace LayeredPlot
namespace Yaml

/-- Numbers are written in full from a hundred-thousandth up to below 10 ^ 16, with a point in every
one of them. -/
def numberStyle : NumberStyle where
  inFull lead := -5 ≤ lead ∧ lead ≤ 15
  pointZero := true
  tie := .even
  undefined := ".nan"
  infinity := ".inf"

def Leaf.text : Leaf -> List Char
  | number x => numberStyle.chars (Double.Parts.ofFloat x)
  | natural n => digits n
  | flag b => (if b then "true" else "false").toList

def indentStep : Nat := 2

namespace Node

def text : Node -> List Char
  | scalar _ _ text => text
  | _ => []

def lineOf (indent : Nat) (text : List Char) : List Char :=
  List.replicate indent ' ' ++ text ++ ['\n']

def itemLines (indent : Nat) (items : List Node) : List Char :=
  items.flatMap fun n => lineOf indent ('-' :: ' ' :: n.text)

mutual

def entryLines (indent : Nat) (key : List Char) : Node -> List Char
  | list [] => lineOf indent (key ++ [':', ' ', '[', ']'])
  | list (n :: ns) => lineOf indent (key ++ [':']) ++ itemLines indent (n :: ns)
  | map [] => lineOf indent (key ++ [':', ' ', '\x7b', '\x7d'])
  | map (e :: es) => lineOf indent (key ++ [':']) ++ linesOfEntries (indent + indentStep) (e :: es)
  | n => lineOf indent (key ++ ':' :: ' ' :: n.text)

def linesOfEntries (indent : Nat) : List (Node × Node) -> List Char
  | [] => []
  | (k, v) :: es => entryLines indent k.text v ++ linesOfEntries indent es

end

mutual

def ofValue : Value -> Node
  | .leaf l => plain l.text
  | .list ls => list (ls.map fun l => plain l.text)
  | .map fs => map (ofFields fs)

def ofFields : List (String × Value) -> List (Node × Node)
  | [] => []
  | (name, v) :: fs => (plain name.toList, ofValue v) :: ofFields fs

end

end Node

def documentOf (fs : Fields Value) : String :=
  match fs with
  | [] => "\x7b\x7d\n"
  | fs => String.ofList (Node.linesOfEntries 0 (Node.ofFields fs))

end Yaml
end LayeredPlot
