import LayeredPlot.Number.Reading
import LayeredPlot.Yaml.Library
import LayeredPlot.Yaml.Token

/-!
# Nodes of YAML documents

A document is a tree of scalars, lists and mappings, in which a reference stands for
a node that has an anchor.  A scalar that stands in the document without quotes can be a
number or a truth value; another one can only if it is a literal block with the tag for that.
A mapping or list that is left blank is an empty one.
-/

namespace LayeredPlot
namespace Yaml

inductive Node
  | scalar (style : Style) (tag : Option (List Char)) (text : List Char)
  | list (items : List Node)
  | map (entries : List (Node × Node))
  | anchored (number : Nat) (node : Node)
  | reference (number : Nat)

namespace Node

abbrev plain (text : List Char) : Node :=
  scalar .plain none text

def blank : Node :=
  plain []

def withAnchor (number : Option Nat) (n : Node) : Node :=
  match number with
  | some k => anchored k n
  | none => n

/-! ## Anchors -/

mutual

def anchors : Node -> List (Nat × Node)
  | scalar _ _ _ => []
  | list items => anchorsOfItems items
  | map entries => anchorsOfEntries entries
  | anchored k n => (k, n) :: anchors n
  | reference _ => []

def anchorsOfItems : List Node -> List (Nat × Node)
  | [] => []
  | n :: ns => anchors n ++ anchorsOfItems ns

def anchorsOfEntries : List (Node × Node) -> List (Nat × Node)
  | [] => []
  | (k, v) :: es => anchors k ++ anchors v ++ anchorsOfEntries es

end

end Node

abbrev Anchors := List (Nat × Node)

namespace Anchors

/-- The nodes of a document that references in it stand for.  Of several nodes with a number, the
last one in the document counts. -/
def ofDocument (root : Node) : Anchors :=
  root.anchors.reverse

def resolve (a : Anchors) : Node -> Node
  | .anchored _ n => n
  | .reference k => (a.lookup k).getD (.reference k)
  | n => n

end Anchors

namespace Node

/-! ## Lists and mappings -/

def isBlank : Node -> Bool
  | scalar .plain _ [] => true
  | _ => false

def items? (a : Anchors) (n : Node) : Option (List Node) :=
  match n with
  | list items => some (items.map a.resolve)
  | n => if n.isBlank then some [] else none

def name? : Node -> Option String
  | scalar _ _ text => some (String.ofList text)
  | _ => none

def fields? (a : Anchors) (n : Node) : Option (Fields Node) :=
  match n with
  | map entries =>
      entries.mapM fun e => (a.resolve e.1).name?.map fun name => (name, a.resolve e.2)
  | n => if n.isBlank then some [] else none

/-! ## Scalars -/

def coreTag : List Char :=
  "tag:yaml.org,2002:".toList

def textOf? (kind : String) : Node -> Option (List Char)
  | scalar .plain _ text => some text
  | scalar .literal tag text => if tag = some (coreTag ++ kind.toList) then some text else none
  | _ => none

def special? (text : String) : Option Float :=
  if text = ".inf" ∨ text = ".Inf" ∨ text = ".INF" ∨ text = "+.inf" ∨ text = "+.Inf"
      ∨ text = "+.INF" then
    some (1.0 / 0.0)
  else if text = "-.inf" ∨ text = "-.Inf" ∨ text = "-.INF" then some (-1.0 / 0.0)
  else if text = ".nan" ∨ text = ".NaN" ∨ text = ".NAN" then some (0.0 / 0.0)
  else none

/-- A number, which may be a special one; a decimal beyond all doubles is none. -/
def number? (n : Node) : Option Float := do
  let text <- n.textOf? "float"
  match special? (String.ofList text) with
  | some x => pure x
  | none =>
      let x <- Double.ofText? text
      if x.isFinite then pure x else none

/-- A natural number without a sign; it is decimal unless it says otherwise, and a decimal one of
several digits does not begin with a zero. -/
def unsigned? : List Char -> Option Nat
  | '0' :: 'x' :: ds => naturalInBase? 16 ds
  | '0' :: 'o' :: ds => naturalInBase? 8 ds
  | '0' :: 'b' :: ds => naturalInBase? 2 ds
  | ['0'] => some 0
  | '0' :: _ => none
  | ds => natural? ds

def natural? (n : Node) : Option Nat := do
  let text <- n.textOf? "int"
  let value <- unsigned? (match text with
    | '+' :: r => r
    | r => r)
  if value < Nat.pow 2 wordSize then pure value else none

def flag? (n : Node) : Option Bool := do
  let text <- (n.textOf? "bool").map String.ofList
  if text = "true" ∨ text = "True" ∨ text = "TRUE" then pure true
  else if text = "false" ∨ text = "False" ∨ text = "FALSE" then pure false
  else none

end Node

end Yaml
end LayeredPlot
