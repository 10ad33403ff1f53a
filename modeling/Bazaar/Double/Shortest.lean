import Bazaar.Double

/-!
The shortest decimal of a double: of the decimals that are nearer to it than to any other double,
one with the fewest digits, and of these the one nearest to it. On the grid of the multiples of a
power of ten only the two neighbours of the double matter: if any point of the grid reads back as
the double, so does one of these.
-/

namespace Bazaar.Double

-- powers are those of the core library, whatever else is imported
attribute [local instance (high)] instPowNat

/-- The decimal `digits * 10 ^ exponent`. -/
structure Decimal where
  digits : Nat
  exponent : Int
deriving DecidableEq

/-- What is taken where two decimals are equally near. -/
inductive Tie
  | up
  | even
deriving DecidableEq

/-- The reals that read back as a double, in units of a power of two: those between `low` and
`high` times `2 ^ unit`, the ends included if `closed`, around `mid * 2 ^ unit`. -/
structure Cell where
  low : Nat
  mid : Nat
  high : Nat
  unit : Int
  closed : Bool

/-- The cell of a finite double. Below a power of two the next double is half as far. -/
def cell (d : Double) : Cell :=
  let (m, q) := d.parts
  { low := if m = 2 ^ (52 : Nat) ∧ -1074 < q then 4 * m - 1 else 4 * m - 2
    mid := 4 * m
    high := 4 * m + 2
    unit := q - 2
    closed := m % 2 = 0 }

namespace Cell

/-- Whether `n * 10 ^ k` is in the cell, for `p / q = 2 ^ unit / 10 ^ k`. -/
def holds (c : Cell) (p q n : Nat) : Bool :=
  if c.closed then c.low * p ≤ n * q && n * q ≤ c.high * p
  else c.low * p < n * q && n * q < c.high * p

/-- The nearer of the neighbours of the cell's middle among the multiples of `10 ^ k` that are in
the cell. -/
def onGrid? (c : Cell) (tie : Tie) (k : Int) : Option Nat :=
  let p := 2 ^ c.unit.toNat * 10 ^ (-k).toNat
  let q := 2 ^ (-c.unit).toNat * 10 ^ k.toNat
  let n := c.mid * p / q
  match c.holds p q n, c.holds p q (n + 1) with
  | false, false => none
  | true, false => some n
  | false, true => some (n + 1)
  | true, true =>
    match compare (2 * (c.mid * p)) ((2 * n + 1) * q), tie with
    | .lt, _ => some n
    | .gt, _ => some (n + 1)
    | .eq, .up => some (n + 1)
    | .eq, .even => some (if n % 2 = 0 then n else n + 1)

/-- The first hit on the grids of `10 ^ k`, `10 ^ (k - 1)` and so on. -/
def search (c : Cell) (tie : Tie) : Nat → Int → Decimal
  | 0, k => ⟨c.mid, k⟩
  | fuel + 1, k =>
    match c.onGrid? tie k with
    | some n => ⟨n, k⟩
    | none => c.search tie fuel (k - 1)

end Cell

/-- A power of ten above the absolute value of a double, and no more than two places above. -/
def ceilingExponent (d : Double) : Int :=
  let (m, q) := d.parts
  (((m.log2 + 1 : Nat) : Int) + q) * 30103 / 100000 + 1

/-- The decimal without the zeros at its end. -/
def Decimal.strip : Nat → Decimal → Decimal
  | 0, x => x
  | fuel + 1, x =>
    if x.digits ≠ 0 ∧ x.digits % 10 = 0 then strip fuel ⟨x.digits / 10, x.exponent + 1⟩ else x

/-- The shortest decimal of the absolute value of a finite double other than zero. Seventeen
digits always suffice. -/
def shortest (tie : Tie) (d : Double) : Decimal :=
  ((d.cell).search tie 20 d.ceilingExponent).strip 20

end Bazaar.Double
