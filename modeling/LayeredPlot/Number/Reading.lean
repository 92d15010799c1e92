/-!
# Numbers from text

A decimal text has digits with at most one point, and after them at most one
power of ten.  It is read as the double that is nearest to it.
-/

namespace LayeredPlot

def digitValue (c : Char) : Nat :=
  c.toNat - '0'.toNat

def naturalInBase? (base : Nat) (cs : List Char) : Option Nat :=
  let digit? (c : Char) : Option Nat :=
    let v :=
      if c.isDigit then digitValue c
      else if 'a' ≤ c ∧ c ≤ 'z' then c.toNat - 'a'.toNat + 10
      else if 'A' ≤ c ∧ c ≤ 'Z' then c.toNat - 'A'.toNat + 10
      else base
    if v < base then some v else none
  if cs.isEmpty then none
  else (cs.mapM digit?).map fun vs => vs.foldl (fun n v => n * base + v) 0

def natural? (cs : List Char) : Option Nat :=
  naturalInBase? 10 cs

def takeSign : List Char -> Bool × List Char
  | '-' :: cs => (true, cs)
  | '+' :: cs => (false, cs)
  | cs => (false, cs)

def integer? (cs : List Char) : Option Int :=
  let (negative, ds) := takeSign cs
  (natural? ds).map fun n => if negative then -Int.ofNat n else Int.ofNat n

def coefficient? (cs : List Char) : Option (Nat × Int) :=
  let whole := cs.takeWhile Char.isDigit
  let (fraction, rest) : List Char × List Char :=
    match cs.dropWhile Char.isDigit with
    | '.' :: r => (r.takeWhile Char.isDigit, r.dropWhile Char.isDigit)
    | r => ([], r)
  let exponent? : Option Int :=
    match rest with
    | [] => some 0
    | c :: r => if c = 'e' ∨ c = 'E' then integer? r else none
  match natural? (whole ++ fraction), exponent? with
  | some n, some e => some (n, e - Int.ofNat fraction.length)
  | _, _ => none

namespace Double

/-- Every positive double is above ten to the power of minus this and below ten to the power of
this. -/
def decimalRange : Int := 400

def nearest (coefficient : Nat) (exponent : Int) : Float :=
  let lead := exponent + Int.ofNat (Nat.toDigits 10 coefficient).length
  if coefficient = 0 ∨ lead < -decimalRange then 0.0
  else if decimalRange < lead then 1.0 / 0.0
  else Float.ofScientific coefficient (exponent < 0) exponent.natAbs

def ofText? (cs : List Char) : Option Float :=
  let (negative, ds) := takeSign cs
  (coefficient? ds).map fun (n, e) => if negative then -nearest n e else nearest n e

end Double
end LayeredPlot
