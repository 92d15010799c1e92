import LayeredPlot.Number.Scalar
import LayeredPlot.Number.Text

/-!
# Exact numbers as scalars

The exact numbers are the rationals with two infinities and an undefined
number.  No operation rounds, so statements about plots that leave rounding
aside are statements about plots over exact numbers.  There is one zero; a
division by it gives the infinity with the sign of the dividend.
-/

namespace LayeredPlot

inductive Exact
  | value (q : Rat)
  | infinite
  | negInfinite
  | undefined
  deriving DecidableEq, Repr

namespace Exact

def infinityOf (q : Rat) : Exact :=
  if 0 < q then infinite else if q < 0 then negInfinite else undefined

def neg : Exact -> Exact
  | value q => value (-q)
  | infinite => negInfinite
  | negInfinite => infinite
  | undefined => undefined

def add : Exact -> Exact -> Exact
  | undefined, _ => undefined
  | _, undefined => undefined
  | value p, value q => value (p + q)
  | value _, y => y
  | x, value _ => x
  | infinite, infinite => infinite
  | negInfinite, negInfinite => negInfinite
  | _, _ => undefined

def mul : Exact -> Exact -> Exact
  | undefined, _ => undefined
  | _, undefined => undefined
  | value p, value q => value (p * q)
  | value p, infinite => infinityOf p
  | value p, negInfinite => infinityOf (-p)
  | infinite, value q => infinityOf q
  | negInfinite, value q => infinityOf (-q)
  | infinite, y => y
  | negInfinite, y => neg y

def div : Exact -> Exact -> Exact
  | undefined, _ => undefined
  | _, undefined => undefined
  | value p, value q => if q = 0 then infinityOf p else value (p / q)
  | value _, _ => value 0
  | infinite, value q => if q < 0 then negInfinite else infinite
  | negInfinite, value q => if q < 0 then infinite else negInfinite
  | _, _ => undefined

def le : Exact -> Exact -> Bool
  | undefined, _ => false
  | _, undefined => false
  | negInfinite, _ => true
  | _, infinite => true
  | value p, value q => p ≤ q
  | _, _ => false

def lt (x y : Exact) : Bool :=
  le x y && !le y x

instance : LE Exact := ⟨fun x y => le x y = true⟩

instance : LT Exact := ⟨fun x y => lt x y = true⟩

def mapRat (f : Rat -> Int) : Exact -> Exact
  | value q => value (Rat.ofInt (f q))
  | x => x

def truncate : Exact -> Int
  | value q => Int.tdiv q.num q.den
  | _ => 0

def decimalOrder (n : Nat) : Nat :=
  (Nat.toDigits 10 n).length - 1

def ratDecade (q : Rat) : Int :=
  if 1 < q then Int.ofNat (decimalOrder (q.ceil - 1).toNat + 1)
  else -Int.ofNat (decimalOrder (1 / q).floor.toNat)

def decade : Exact -> Int
  | value q => ratDecade q
  | _ => 0

/-- A walk between rationals visits one number more than its stride fits between them.  A walk
that meets an infinity stays there, and a walk towards an infinity is cut short, for it has no
end. -/
def strides : Exact -> Exact -> Exact -> Nat
  | value low, value high, value stride => ((high - low) / stride).floor.toNat + 1
  | _, _, _ => 2

end Exact

instance : Scalar Exact where
  add := Exact.add
  sub x y := Exact.add x (Exact.neg y)
  mul := Exact.mul
  div := Exact.div
  ofScientific mantissa negative exponent :=
    Exact.value
      (if negative then mkRat mantissa (Nat.pow 10 exponent)
      else Rat.ofInt (Int.ofNat (mantissa * Nat.pow 10 exponent)))
  decideLE x y := inferInstanceAs (Decidable (Exact.le x y = true))
  decideLT x y := inferInstanceAs (Decidable (Exact.lt x y = true))
  ofInt n := Exact.value (Rat.ofInt n)
  undefined := Exact.undefined
  infinite := Exact.infinite
  negInfinite := Exact.negInfinite
  floor := Exact.mapRat Rat.floor
  ceil := Exact.mapRat Rat.ceil
  truncate := Exact.truncate
  powTen z := Exact.value (Rat.zpow (Rat.ofInt 10) z)
  decade := Exact.decade
  strides := Exact.strides

namespace Exact

def text : Exact -> String
  | value q =>
      String.ofList (integerText q.num ++ if q.den = 1 then [] else '/' :: digits q.den)
  | infinite => "inf"
  | negInfinite => "-inf"
  | undefined => "NaN"

end Exact

instance : NumberText Exact where
  plain := Exact.text
  scientific := Exact.text

end LayeredPlot
