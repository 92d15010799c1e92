/-!
# Shortest decimals

A positive double is a natural number times a power of two.  The reals that
round to it form an interval, and its shortest decimal is the one with the
fewest digits inside that interval, the nearest to the double among those.  Two
such decimals can be equally near; which of them is taken is a choice of the
caller.
-/

namespace LayeredPlot

structure Decimal where
  coefficient : Nat
  exponent : Int
  deriving DecidableEq, Repr

/-- Which of two equally near decimals is taken: the greater, or the one with an even last digit. -/
inductive Tie
  | up
  | even
  deriving DecidableEq, Repr

/-- What a double stands for: no number, an infinity, a zero or a signed multiple of a power of
two.  `narrow` says that the next double towards zero is only half as far away as the next one
away from it. -/
inductive Double.Parts
  | undefined
  | infinite (negative : Bool)
  | zero (negative : Bool)
  | finite (negative : Bool) (mantissa : Nat) (exponent : Int) (narrow : Bool)
  deriving DecidableEq, Repr

namespace Double.Parts

def ofBits (bits : Nat) : Double.Parts :=
  let negative : Bool := Nat.pow 2 63 ≤ bits
  let scale := bits / Nat.pow 2 52 % Nat.pow 2 11
  let fraction := bits % Nat.pow 2 52
  if scale = Nat.pow 2 11 - 1 then
    if fraction = 0 then infinite negative else undefined
  else if scale = 0 then
    if fraction = 0 then zero negative else finite negative fraction (-1074) false
  else
    let narrow : Bool := fraction = 0 ∧ 1 < scale
    finite negative (Nat.pow 2 52 + fraction) (Int.ofNat scale - 1075) narrow

def ofFloat (x : Float) : Double.Parts :=
  ofBits x.toBits.toNat

end Double.Parts

/-- The reals that round to `mantissa * 2 ^ exponent`, in quarters of that power of two; the ends
belong to the interval when the mantissa is even. -/
structure RoundingInterval where
  low : Nat
  centre : Nat
  high : Nat
  closed : Bool
  exponent : Int

namespace RoundingInterval

def ofBinary (mantissa : Nat) (exponent : Int) (narrow : Bool) : RoundingInterval where
  low := if narrow then 4 * mantissa - 1 else 4 * mantissa - 2
  centre := 4 * mantissa
  high := 4 * mantissa + 2
  closed := mantissa % 2 = 0
  exponent := exponent - 2

/-- The factors that carry quarters of the binary unit and units of `10 ^ place` to a common
unit. -/
def common (r : RoundingInterval) (place : Int) : Nat × Nat :=
  (Nat.pow 2 r.exponent.toNat * Nat.pow 10 (-place).toNat,
    Nat.pow 2 (-r.exponent).toNat * Nat.pow 10 place.toNat)

def contains (r : RoundingInterval) (place : Int) (c : Nat) : Bool :=
  let (binary, decimal) := r.common place
  if r.closed then r.low * binary ≤ c * decimal ∧ c * decimal ≤ r.high * binary
  else r.low * binary < c * decimal ∧ c * decimal < r.high * binary

def below (r : RoundingInterval) (place : Int) : Nat :=
  let (binary, decimal) := r.common place
  r.centre * binary / decimal

def prefersAbove (tie : Tie) (r : RoundingInterval) (place : Int) : Bool :=
  let (binary, decimal) := r.common place
  let twice := 2 * (r.centre * binary % decimal)
  match tie with
  | .up => decimal ≤ twice
  | .even => decimal < twice ∨ decimal = twice ∧ r.below place % 2 = 1

def nearest? (tie : Tie) (r : RoundingInterval) (place : Int) : Option Nat :=
  let c := r.below place
  match r.contains place c, r.contains place (c + 1) with
  | true, true => some (if r.prefersAbove tie place then c + 1 else c)
  | true, false => some c
  | false, true => some (c + 1)
  | false, false => none

end RoundingInterval

def decimalLength (n : Nat) : Nat :=
  (Nat.toDigits 10 n).length

def leadingPlace (p q : Nat) : Int :=
  if q ≤ p then Int.ofNat (decimalLength (p / q)) - 1
  else -Int.ofNat (decimalLength ((q - 1) / p))

/-- Every double is the nearest double to one of the two decimals around it with seventeen
digits. -/
def maxDigits : Nat := 17

def Decimal.shortest (tie : Tie) (mantissa : Nat) (exponent : Int) (narrow : Bool) : Decimal :=
  let r := RoundingInterval.ofBinary mantissa exponent narrow
  let (binary, decimal) := r.common 0
  let lead := leadingPlace (r.centre * binary) decimal
  let places := (List.range maxDigits).map fun dropped => lead - Int.ofNat dropped
  let found := places.findSome? fun place =>
    (r.nearest? tie place).map fun c => (⟨c, place⟩ : Decimal)
  found.getD ⟨r.below (lead - 16), lead - 16⟩

def Decimal.stripZeros : Nat -> Decimal -> Decimal
  | 0, d => d
  | bound + 1, d =>
      if d.coefficient % 10 = 0 ∧ d.coefficient ≠ 0 then
        stripZeros bound ⟨d.coefficient / 10, d.exponent + 1⟩
      else d

end LayeredPlot
