import LayeredPlot.Number.Shortest

/-!
# Numbers as text

A double is written with the digits of its shortest decimal, either in full or
as a leading digit, a fraction and a power of ten.  A style says which of the
two is used for which powers of ten, and how the special doubles are spelled.
-/

namespace LayeredPlot

def digits (n : Nat) : List Char :=
  Nat.toDigits 10 n

def integerText (z : Int) : List Char :=
  if z < 0 then '-' :: digits z.natAbs else digits z.natAbs

def naturalText (n : Nat) : String :=
  String.ofList (digits n)

structure NumberStyle where
  /-- Whether a number whose leading digit stands at this power of ten is written in full. -/
  inFull : Int -> Bool
  pointZero : Bool
  tie : Tie
  undefined : String
  infinity : String

namespace Decimal

def lead (d : Decimal) : Int :=
  d.exponent + Int.ofNat (digits d.coefficient).length - 1

def positional (pointZero : Bool) (d : Decimal) : List Char :=
  let ds := digits d.coefficient
  if 0 ≤ d.exponent then
    ds ++ List.replicate d.exponent.toNat '0' ++ (if pointZero then ['.', '0'] else [])
  else
    let places := d.exponent.natAbs
    if places < ds.length then
      ds.take (ds.length - places) ++ '.' :: ds.drop (ds.length - places)
    else
      '0' :: '.' :: (List.replicate (places - ds.length) '0' ++ ds)

def scientific (d : Decimal) : List Char :=
  let fraction := (digits d.coefficient).drop 1
  (digits d.coefficient).take 1 ++ (if fraction.isEmpty then [] else '.' :: fraction)
    ++ 'e' :: integerText d.lead

def write (style : NumberStyle) (d : Decimal) : List Char :=
  if style.inFull d.lead then d.positional style.pointZero else d.scientific

end Decimal

namespace NumberStyle

def signed (negative : Bool) (text : List Char) : List Char :=
  if negative then '-' :: text else text

def chars (style : NumberStyle) : Double.Parts -> List Char
  | .undefined => style.undefined.toList
  | .infinite negative => signed negative style.infinity.toList
  | .zero negative => signed negative (Decimal.write style ⟨0, 0⟩)
  | .finite negative mantissa exponent narrow =>
      let d := Decimal.shortest style.tie mantissa exponent narrow
      signed negative ((d.stripZeros maxDigits).write style)

def text (style : NumberStyle) (x : Float) : String :=
  String.ofList (style.chars (Double.Parts.ofFloat x))

def plain : NumberStyle where
  inFull _ := true
  pointZero := false
  tie := .up
  undefined := "NaN"
  infinity := "inf"

def powers : NumberStyle where
  inFull _ := false
  pointZero := false
  tie := .up
  undefined := "NaN"
  infinity := "inf"

end NumberStyle

class NumberText (num : Type) where
  plain : num -> String
  scientific : num -> String

instance : NumberText Float where
  plain := NumberStyle.plain.text
  scientific := NumberStyle.powers.text

end LayeredPlot
