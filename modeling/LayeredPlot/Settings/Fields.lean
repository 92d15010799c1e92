import LayeredPlot.Number.Double
import LayeredPlot.Settings.Basic
import LayeredPlot.Yaml.Library

/-!
# Settings as fields

Settings are written as a mapping with a field for each of them, and read from any mapping with some
of these fields.  A field that is missing keeps its standard value, and a field that is not known
does not count.
-/

namespace LayeredPlot

open Yaml

namespace Weights

def toList {num : Type} (w : Weights num) : List num :=
  [w.coverage, w.simplicity, w.density, w.legibility]

def ofList? {num : Type} : List num -> Option (Weights num)
  | [c, s, d, l] => some { coverage := c, simplicity := s, density := d, legibility := l }
  | _ => none

end Weights

namespace TickOptions

def fields (o : TickOptions Float) : Fields Value :=
  [("nice_steps", .list (o.niceSteps.map .number)),
    ("weights", .list (o.weights.toList.map .number)), ("loose", .leaf (.flag o.loose))]

variable (lib : Library)

def numbers? (n : lib.Part) : Option (List Float) := do
  let items <- lib.items? n
  items.mapM lib.number?

def ofFields? (fs : Fields lib.Part) : Option (TickOptions Float) := do
  let niceSteps <- fs.field? "nice_steps" standard.niceSteps (numbers? lib)
  let weights <- fs.field? "weights" standard.weights fun n => numbers? lib n >>= Weights.ofList?
  let loose <- fs.field? "loose" (standard : TickOptions Float).loose lib.flag?
  pure { niceSteps := niceSteps, weights := weights, loose := loose }

def ofNode? (n : lib.Part) : Option (TickOptions Float) :=
  lib.fields? n >>= ofFields? lib

end TickOptions

namespace Settings

def fieldsWith (s : Settings Float) (breaks : Fields Value) : Fields Value :=
  [("margin", .leaf (.number s.margin)), ("inferred_margin", .leaf (.number s.inferredMargin)),
    ("target_ticks", .leaf (.natural s.targetTicks)), ("breaks", .map breaks)]

def fields (s : Settings Float) : Fields Value :=
  s.fieldsWith s.ticks.fields

variable (lib : Library)

def write? (s : Settings Float) : Option String :=
  lib.write? s.fields

def ofFields? (fs : Fields lib.Part) : Option (Settings Float) := do
  let margin <- fs.field? "margin" standard.margin lib.number?
  let inferredMargin <- fs.field? "inferred_margin" standard.inferredMargin lib.number?
  let targetTicks <- fs.field? "target_ticks" (standard : Settings Float).targetTicks lib.natural?
  let ticks <- fs.field? "breaks" standard.ticks (TickOptions.ofNode? lib)
  pure { margin := margin, inferredMargin := inferredMargin, targetTicks := targetTicks,
         ticks := ticks }

def read? (document : String) : Option (Settings Float) :=
  lib.read? document >>= lib.fields? >>= ofFields? lib

end Settings
end LayeredPlot
