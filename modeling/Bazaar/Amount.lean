/-!
Amounts: signed 64-bit whole numbers. Every sum, difference and product is taken among the
integers and is an amount only if it is in range, so nothing ever wraps.
-/

namespace Bazaar

-- powers and sums are those of the core library, whatever else is imported
attribute [local instance (high)] instPowNat Zero.ofOfNat0

/-- An amount of a currency or a quantity of a good. -/
abbrev Amount := Int64

namespace Amount

/-- The integers that are amounts. -/
def InRange (n : Int) : Prop := -2 ^ (63 : Nat) ≤ n ∧ n < 2 ^ (63 : Nat)

instance (n : Int) : Decidable (InRange n) := by unfold InRange; infer_instance

/-- The amount that is the integer `n`, if there is one. -/
def ofInt? (n : Int) : Option Amount := if InRange n then some (Int64.ofInt n) else none

theorem inRange_toInt (a : Amount) : InRange a.toInt := ⟨Int64.le_toInt a, Int64.toInt_lt a⟩

theorem toInt_ofInt {n : Int} (h : InRange n) : (Int64.ofInt n).toInt = n :=
  Int64.toInt_ofInt_of_le h.1 h.2

@[simp] theorem ofInt?_eq_some_iff {n : Int} {a : Amount} : ofInt? n = some a ↔ a.toInt = n := by
  unfold ofInt?
  split
  · rename_i h
    constructor
    · rintro h'
      rw [← Option.some.inj h', toInt_ofInt h]
    · intro h'
      rw [← h', Int64.ofInt_toInt]
  · rename_i h
    constructor
    · intro h'; cases h'
    · intro h'
      exact absurd (h' ▸ inRange_toInt a) h

@[simp] theorem ofInt?_eq_none_iff {n : Int} : ofInt? n = none ↔ ¬ InRange n := by
  unfold ofInt?; split <;> simp_all

theorem ofInt?_toInt (a : Amount) : ofInt? a.toInt = some a := ofInt?_eq_some_iff.2 rfl

/-- The sum, if it is an amount. -/
def add? (a b : Amount) : Option Amount := ofInt? (a.toInt + b.toInt)

/-- The difference, if it is an amount. -/
def sub? (a b : Amount) : Option Amount := ofInt? (a.toInt - b.toInt)

/-- The negation, if it is an amount. -/
def neg? (a : Amount) : Option Amount := ofInt? (-a.toInt)

/-- The product, if it is an amount. -/
def mul? (a b : Amount) : Option Amount := ofInt? (a.toInt * b.toInt)

/-- The largest amount. -/
def greatest : Amount := Int64.maxValue

/-- The machine number nearest to an amount. -/
def toFloat (a : Amount) : Float :=
  let x := a.toInt.natAbs.toUInt64.toFloat
  if a < 0 then -x else x

/-- The sum of a list taken from the left, if every partial sum is an amount. -/
def sum? (as : List Amount) : Option Amount := as.foldlM add? 0

/-- The sum of a list among the integers. -/
def total (as : List Amount) : Int := (as.map Int64.toInt).sum

end Amount

end Bazaar
