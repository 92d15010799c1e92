import LayeredPlot.Number.Scalar

/-!
# Doubles as scalars

Doubles round every result to the nearest double.  Powers of ten are built by
repeated squaring, which fixes how their rounding errors add up, and exponents
and integer parts are clamped to the words they are held in.
-/

namespace LayeredPlot
namespace Double

/-- Multiplies the powers `base`, `base ^ 2`, `base ^ 4`, .. for the binary digits of `n` that are
set, from the lowest digit up.  The first argument bounds the number of digits. -/
def powBySquaring : Nat -> Float -> Float -> Nat -> Float
  | 0, acc, _, _ => acc
  | digits + 1, acc, base, n =>
      let acc := if n % 2 = 1 then acc * base else acc
      if n / 2 = 0 then acc
      else powBySquaring digits acc (base * base) (n / 2)

def powTen (z : Int) : Float :=
  let r := powBySquaring 32 1.0 10.0 z.natAbs
  if z < 0 then 1.0 / r else r

def ofNat (n : Nat) : Float :=
  let word := n.toUInt64
  if word.toNat = n then word.toFloat else Float.ofNat n

def ofInt (n : Int) : Float :=
  if n < 0 then -ofNat n.natAbs else ofNat n.natAbs

/-- The position of a double in the increasing order of the doubles.  The two zeros share one
position. -/
def position (x : Float) : Nat :=
  let bits := x.toBits.toNat
  if bits < Nat.pow 2 63 then Nat.pow 2 63 + bits else Nat.pow 2 64 - bits

def strides (low high : Float) : Nat :=
  position high + 1 - position low

end Double

instance : Scalar Float where
  decideLE := Float.decLe
  decideLT := Float.decLt
  ofInt := Double.ofInt
  undefined := 0.0 / 0.0
  infinite := 1.0 / 0.0
  negInfinite := -1.0 / 0.0
  floor := Float.floor
  ceil := Float.ceil
  truncate x := x.toInt64.toInt
  powTen := Double.powTen
  decade x := x.log10.ceil.toInt32.toInt
  strides low high _ := Double.strides low high

end LayeredPlot
