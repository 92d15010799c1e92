import LayeredPlot.Picture.Canvas

/-!
# Picture documents

A canvas is written as a vector graphics document with one element for each
shape.  Characters that mean something to a reader of the document are written
as entities wherever a text of the plot stands in it.
-/

namespace LayeredPlot

/-! ## Entities -/

namespace Entity

def ofChar : Char -> List Char
  | '&' => ['&', 'a', 'm', 'p', ';']
  | '<' => ['&', 'l', 't', ';']
  | '>' => ['&', 'g', 't', ';']
  | '"' => ['&', 'q', 'u', 'o', 't', ';']
  | c => [c]

def encode (s : List Char) : List Char :=
  s.flatMap ofChar

def decode : List Char -> List Char
  | '&' :: 'a' :: 'm' :: 'p' :: ';' :: r => '&' :: decode r
  | '&' :: 'l' :: 't' :: ';' :: r => '<' :: decode r
  | '&' :: 'g' :: 't' :: ';' :: r => '>' :: decode r
  | '&' :: 'q' :: 'u' :: 'o' :: 't' :: ';' :: r => '"' :: decode r
  | c :: r => c :: decode r
  | [] => []

def escape (s : String) : String :=
  String.ofList (encode s.toList)

end Entity

/-! ## Elements -/

namespace Anchor

def name : Anchor -> String
  | start => "start"
  | middle => "middle"
  | finish => "end"

end Anchor

def attr (name value : String) : String :=
  " " ++ name ++ "=\"" ++ value ++ "\""

namespace Shape

variable {num : Type} [Scalar num] [NumberText num]

def numberAttribute (name : String) (x : num) : String :=
  attr name (NumberText.plain x)

def textAttribute (name text : String) : String :=
  attr name (Entity.escape text)

def pointsText (points : List (num × num)) : String :=
  String.intercalate " "
    (points.map fun (x, y) => NumberText.plain x ++ "," ++ NumberText.plain y)

def element : Shape num -> String
  | circle x y radius fill opacity =>
      "<circle" ++ numberAttribute "cx" x ++ numberAttribute "cy" y ++ numberAttribute "r" radius
        ++ textAttribute "fill" fill ++ numberAttribute "fill-opacity" opacity ++ "/>"
  | line x1 y1 x2 y2 stroke width =>
      "<line" ++ numberAttribute "x1" x1 ++ numberAttribute "y1" y1 ++ numberAttribute "x2" x2
        ++ numberAttribute "y2" y2 ++ textAttribute "stroke" stroke
        ++ numberAttribute "stroke-width" width ++ "/>"
  | polyline points stroke width opacity =>
      "<polyline" ++ attr "points" (pointsText points) ++ attr "fill" "none"
        ++ textAttribute "stroke" stroke ++ numberAttribute "stroke-width" width
        ++ numberAttribute "stroke-opacity" opacity ++ "/>"
  | text x y content anchor =>
      "<text" ++ numberAttribute "x" x ++ numberAttribute "y" y
        ++ numberAttribute "font-size" (Panel.fontSize : num) ++ attr "text-anchor" anchor.name
        ++ attr "font-family" "sans-serif" ++ ">" ++ Entity.escape content ++ "</text>"

end Shape

/-! ## Documents -/

namespace Canvas

variable {num : Type} [Scalar num] [NumberText num]

def openingTag (width height : Nat) : String :=
  let w := naturalText width
  let h := naturalText height
  "<svg" ++ attr "xmlns" "http://www.w3.org/2000/svg" ++ attr "width" w
    ++ attr "height" h ++ attr "viewBox" ("0 0 " ++ w ++ " " ++ h) ++ ">"

def ground : String :=
  "<rect" ++ attr "width" "100%" ++ attr "height" "100%" ++ attr "fill" "white"
    ++ "/>"

def document (c : Canvas num) : String :=
  openingTag c.width c.height ++ "\n"
    ++ String.join ((ground :: c.shapes.map Shape.element).map fun e => "  " ++ e ++ "\n")
    ++ "</svg>\n"

end Canvas
end LayeredPlot
