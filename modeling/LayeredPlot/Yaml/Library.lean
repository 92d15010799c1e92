/-!
# Libraries for YAML documents

A library writes values as documents.  It reads documents into parts of a kind of its own, which are
then asked for what they are: the layout of documents and the texts of numbers are known to the
library alone.  What is relied on are a few laws: mappings and lists are read back as they are
written, and so is what stands in them.
-/

namespace LayeredPlot
namespace Yaml

abbrev Fields (content : Type) := List (String × content)

inductive Leaf
  | number (x : Float)
  | natural (n : Nat)
  | flag (b : Bool)

inductive Value
  | leaf (l : Leaf)
  | list (items : List Leaf)
  | map (fields : List (String × Value))

def wordSize : Nat := 64

structure Library where
  Part : Type
  write? : Fields Value -> Option String
  read? : String -> Option Part
  number? : Part -> Option Float
  natural? : Part -> Option Nat
  flag? : Part -> Option Bool
  items? : Part -> Option (List Part)
  fields? : Part -> Option (Fields Part)

namespace Fields

variable {content value : Type}

abbrev names (fs : Fields content) : List String :=
  fs.map Prod.fst

/-- What stands under a name, if anything does.  There is no result if several things do. -/
def lookup (fs : Fields content) (name : String) : Option (Option content) :=
  match fs.filter fun f => f.1 = name with
  | [] => some none
  | [f] => some (some f.2)
  | _ => none

def field? (fs : Fields content) (name : String) (default : value)
    (read : content -> Option value) : Option value := do
  match <- fs.lookup name with
  | none => pure default
  | some c => read c

end Fields

/-!
## Laws

The laws are about names of lower-case letters and underscores, which are nowhere in need of quotes,
and about mappings with at least one field, the layout of which is that of a block.
-/

def isName (name : String) : Bool :=
  !name.toList.isEmpty && name.toList.length ≤ 64
    && name.toList.all fun c => c.isLower || c = '_'

inductive Value.IsBlock : Value -> Prop
  | leaf (l : Leaf) : IsBlock (leaf l)
  | list (items : List Leaf) : IsBlock (list items)
  | map {fields : List (String × Value)} (ne_nil : fields ≠ [])
      (names : forall f, f ∈ fields -> isName f.1 = true) (distinct : (Fields.names fields).Nodup)
      (values : forall f, f ∈ fields -> IsBlock f.2) : IsBlock (map fields)

namespace Library

/-- For each value there is a part that a document of the value is read into.  A document without
text is that of an empty mapping. -/
structure Laws (lib : Library) (part : Value -> lib.Part) : Prop where
  read_write : forall fs, (Value.map fs).IsBlock ->
    lib.write? fs >>= lib.read? = some (part (.map fs))
  fields?_part : forall fs, (Value.map fs).IsBlock ->
    lib.fields? (part (.map fs)) = some (fs.map fun f => (f.1, part f.2))
  items?_part : forall ls, lib.items? (part (.list ls)) = some (ls.map fun l => part (.leaf l))
  natural?_part : forall n, n < Nat.pow 2 wordSize ->
    lib.natural? (part (.leaf (.natural n))) = some n
  flag?_part : forall b, lib.flag? (part (.leaf (.flag b))) = some b
  fields?_nil : lib.write? [] >>= lib.read? >>= lib.fields? = some []
  fields?_blank : lib.read? "" >>= lib.fields? = some []

/-- The text that is written for a double is read as the same double. -/
def ReadsBack (lib : Library) (part : Value -> lib.Part) (x : Float) : Prop :=
  lib.number? (part (.leaf (.number x))) = some x

end Library
end Yaml
end LayeredPlot
