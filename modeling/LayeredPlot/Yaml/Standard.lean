import LayeredPlot.Yaml.Tree
import LayeredPlot.Yaml.Writer

/-!
# The library that plots use for YAML documents

Documents are written block by block.  Every document is read that has the layout of one, with all
the ways to write scalars, lists and mappings.  A node is read together with the anchors of its
document.
-/

namespace LayeredPlot
namespace Yaml
namespace Library

def standard : Library where
  Part := Anchors × Node
  write? fs := some (documentOf fs)
  read? s := (Node.ofDocument? s).map fun root =>
    let a := Anchors.ofDocument root
    (a, a.resolve root)
  number? n := n.2.number?
  natural? n := n.2.natural?
  flag? n := n.2.flag?
  items? n := (n.2.items? n.1).map fun items => items.map fun item => (n.1, item)
  fields? n := (n.2.fields? n.1).map fun fs => fs.map fun f => (f.1, (n.1, f.2))

end Library
end Yaml
end LayeredPlot
