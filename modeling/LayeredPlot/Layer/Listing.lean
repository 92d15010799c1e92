import LayeredPlot.Layer.Mapping
import LayeredPlot.Number.Text
import LayeredPlot.Text.Quoted

/-!
# Listing sources

A source is listed by its kind and its value, as an author of a plot would look
at it.
-/

namespace LayeredPlot

namespace NumberStyle

/-- Numbers in listings are written in full from a ten-thousandth up to below 10 ^ 16, and whole
ones end in a point and a zero. -/
def listing : NumberStyle where
  inFull lead := -4 ≤ lead ∧ lead ≤ 15
  pointZero := true
  tie := .up
  undefined := "NaN"
  infinity := "inf"

end NumberStyle

def listed (kind value : String) : String :=
  kind ++ "(" ++ value ++ ")"

namespace Cell

def listing : Cell Float -> String
  | number x => listed "Number" (NumberStyle.listing.text x)
  | text s => listed "Text" (Quoted.quote s)
  | flag b => listed "Bool" (flag b : Cell Float).flagText
  | missing => "Null"

end Cell

namespace Series

def listedValues (values : List String) : String :=
  "[" ++ String.intercalate ", " values ++ "]"

def listing : Series Float -> String
  | numbers xs => listed "Number" (listedValues (xs.map NumberStyle.listing.text))
  | texts ss => listed "Text" (listedValues (ss.map Quoted.quote))

end Series

namespace Source

def listing : Source Float -> String
  | constant c => listed "Constant" c.listing
  | series s => listed "Vector" s.listing
  | derived _ => listed "Derived" ".."

end Source
end LayeredPlot
