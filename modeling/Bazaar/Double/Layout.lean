import Bazaar.Double.Shortest

/-!
The text of a double: a layout says which of two equally near decimals is taken, where a power of
ten is written out, and what whole numbers end in.
-/

namespace Bazaar.Double

/-- How the shortest decimal of a double is laid out. -/
structure Layout where
  /-- What is taken where two shortest decimals are equally near. -/
  tie : Tie
  /-- The places of the leading digit, counted from the point, at which the number is written
  without an exponent; always, if absent. -/
  positional : Option (Int × Int)
  /-- What follows the last digit of a whole number written without an exponent. -/
  wholeSuffix : String

namespace Layout

/-- Numbers within a sentence: never an exponent, and whole numbers without a point. -/
def plain : Layout := ⟨.up, none, ""⟩

/-- Numbers in a document: an exponent from `1e+16` up and below `1e-5`, and a digit after the
point of a whole number. -/
def document : Layout := ⟨.even, some (-4, 16), ".0"⟩

/-- A number of zeros. -/
def zeros (n : Nat) : String := String.ofList (List.replicate n '0')

/-- The digits with the point after the first `place` of them, zeros put in where there are too
few. -/
def point (l : Layout) (digits : List Char) (place : Int) : String :=
  if place ≤ 0 then "0." ++ zeros (-place).toNat ++ String.ofList digits
  else
    let n := place.toNat
    if digits.length ≤ n then
      String.ofList digits ++ zeros (n - digits.length) ++ l.wholeSuffix
    else String.ofList (digits.take n) ++ "." ++ String.ofList (digits.drop n)

/-- The digits with the point after the first, and the exponent with its sign. -/
def scientific (digits : List Char) (place : Int) : String :=
  let e := place - 1
  let fraction := digits.drop 1
  String.ofList (digits.take 1) ++ (if fraction.isEmpty then "" else "." ++ String.ofList fraction)
    ++ "e" ++ (if e < 0 then "-" else "+") ++ toString e.natAbs

/-- The text of a decimal other than zero. -/
def decimal (l : Layout) (x : Decimal) : String :=
  let digits := Nat.toDigits 10 x.digits
  let place := (digits.length : Int) + x.exponent
  match l.positional with
  | none => l.point digits place
  | some (least, greatest) =>
    if least ≤ place ∧ place ≤ greatest then l.point digits place else scientific digits place

/-- The text of a double. -/
def render (l : Layout) (d : Double) : String :=
  if d.isNaN then "NaN"
  else
    let sign := if d.isNegative then "-" else ""
    if d.isZero then sign ++ "0" ++ l.wholeSuffix
    else if d.isFinite then sign ++ l.decimal (d.shortest l.tie)
    else sign ++ "inf"

end Layout

end Bazaar.Double
