import LayeredPlot.Settings.Fields
import LayeredPlot.Yaml.Standard

/-!
# Settings as documents

Settings are written and read with the library that plots use for YAML documents.
-/

namespace LayeredPlot
namespace Settings

def document (s : Settings Float) : String :=
  Yaml.documentOf s.fields

def ofDocument? (s : String) : Option (Settings Float) :=
  read? .standard s

end Settings
end LayeredPlot
