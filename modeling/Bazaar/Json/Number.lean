import Bazaar.Json

/-!
JSON numbers: an integer in the range of 64 bits stays an integer, and every other number becomes
a double. A double is made of its leading digits, as far as they fit 64 bits, by one multiplication
with a power of ten or one division by it; for up to fifteen digits and powers up to 22 this is the
nearest double.
-/

namespace Bazaar.Json.Number

-- powers are those of the core library, whatever else is imported
attribute [local instance (high)] instPowNat

/-- The parts of a number as it is written. -/
structure Literal where
  negative : Bool
  whole : List Char
  /-- The digits after the point, if there is one. -/
  fraction : Option (List Char)
  /-- The exponent, if there is one. -/
  exponent : Option Int

/-- The value of a digit. -/
def digit (c : Char) : Nat := c.toNat - '0'.toNat

/-- The value of a list of digits. -/
def natural (cs : List Char) : Nat := cs.foldl (fun n c => 10 * n + digit c) 0

/-- Splits off the digits at the front, of which there must be one. -/
def digits? (cs : List Char) : Option (List Char × List Char) :=
  match cs.takeWhile Char.isDigit with
  | [] => none
  | d => some (d, cs.dropWhile Char.isDigit)

/-- Splits off the digits before the point; a zero stands alone. -/
def whole? (cs : List Char) : Option (List Char × List Char) := do
  let (d, rest) ← digits? cs
  if d.head? = some '0' ∧ d ≠ ['0'] then none else some (d, rest)

/-- Splits off the part after the point. -/
def fraction? : List Char → Option (Option (List Char) × List Char)
  | '.' :: cs => do
    let (d, rest) ← digits? cs
    some (some d, rest)
  | cs => some (none, cs)

/-- The exponent, with which the text must end. -/
def exponent? : List Char → Option (Option Int)
  | [] => some none
  | e :: cs => do
    if e ≠ 'e' ∧ e ≠ 'E' then none
    else
      let (negative, cs) := match cs with
        | '-' :: cs => (true, cs)
        | '+' :: cs => (false, cs)
        | cs => (false, cs)
      let (d, rest) ← digits? cs
      let n : Int := natural d
      if rest.isEmpty then some (some (if negative then -n else n)) else none

/-- Reads the parts of a number. -/
def literal? (cs : List Char) : Option Literal := do
  let (negative, cs) := match cs with
    | '-' :: cs => (true, cs)
    | cs => (false, cs)
  let (whole, cs) ← whole? cs
  let (fraction, cs) ← fraction? cs
  let exponent ← exponent? cs
  some ⟨negative, whole, fraction, exponent⟩

/-- Takes digits into a significand as long as it fits 64 bits, with the number of those taken. -/
def absorb : Nat → List Char → Nat × Nat
  | n, [] => (n, 0)
  | n, c :: cs =>
    if 10 * n + digit c < 2 ^ (64 : Nat) then
      let (m, k) := absorb (10 * n + digit c) cs
      (m, k + 1)
    else (n, 0)

/-- A significand times a power of ten, unless it is beyond the doubles. A power too small for one
division is divided by in steps. -/
def scale : Nat → Float → Int → Option Float
  | 0, x, _ => some x
  | fuel + 1, x, e =>
    if e.natAbs ≤ 308 then
      let power := Float.ofScientific 1 false e.natAbs
      if 0 ≤ e then
        let y := x * power
        if y.isInf then none else some y
      else some (x / power)
    else if x == 0 then some x
    else if 0 ≤ e then none
    else scale fuel (x / Float.ofScientific 1 false 308) (e + 308)

namespace Literal

/-- The double of a literal. -/
def double? (l : Literal) : Option Double := do
  let (m, k) := absorb 0 l.whole
  let (m, j) := absorb m (l.fraction.getD [])
  let e := ((l.whole.length - k : Nat) : Int) - (j : Int) + l.exponent.getD 0
  let x ← scale 4 m.toUInt64.toFloat e
  some (.ofFloat (if l.negative then -x else x))

/-- The value of a literal. -/
def value? (l : Literal) : Option Json :=
  let n : Int := if l.negative then -(natural l.whole : Int) else natural l.whole
  if l.fraction = none ∧ l.exponent = none ∧ IntRange n ∧ (l.negative → n ≠ 0) then some (.int n)
  else l.double?.map .double

end Literal

end Bazaar.Json.Number
