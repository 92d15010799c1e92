import LayeredPlot.Number.Scalar

/-!
# Limits

The limits of a continuous scale are the data that it shows, from the lower one,
which is drawn at zero, to the upper one, which is drawn at one.
-/

namespace LayeredPlot

structure Limits (num : Type) where
  low : num
  high : num
  deriving DecidableEq, Repr

namespace Limits

variable {num : Type} [Scalar num]

def span (l : Limits num) : num :=
  l.high - l.low

/-- The least limits around both; undefined ends give way to the others. -/
def union (l m : Limits num) : Limits num where
  low := Scalar.lesser l.low m.low
  high := Scalar.greater l.high m.high

def nothing : Limits num where
  low := Scalar.infinite
  high := Scalar.negInfinite

def normalize (l : Limits num) (x : num) : num :=
  (x - l.low) / l.span

def unitRange : Limits num where
  low := 0.0
  high := 1.0

def position (l : Limits num) (flipped : Bool) (x : num) : num :=
  if flipped then 1.0 - l.normalize x else l.normalize x

def distance (l : Limits num) (d : num) : num :=
  d / l.span

def extend (l : Limits num) (x : num) : Limits num where
  low := if x < l.low then x else l.low
  high := if l.high < x then x else l.high

def widen (margin : num) (l : Limits num) : Limits num where
  low := l.low - l.span * margin
  high := l.high + l.span * margin

/-- The limits around all numbers of a list, widened by a margin; without numbers they are
undefined. -/
def around (margin : num) : List num -> Limits num
  | [] => { low := Scalar.undefined, high := Scalar.undefined }
  | x :: xs => (xs.foldl extend { low := x, high := x }).widen margin

end Limits
end LayeredPlot
