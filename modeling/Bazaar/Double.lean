/-!
Doubles: the 64-bit binary floating-point numbers, held as their bits so that a NaN keeps its
payload. The comparison is made on the bits (`rank`), where it is a comparison of integers;
arithmetic goes through `Float`.
-/

namespace Bazaar

-- powers are those of the core library, whatever else is imported
attribute [local instance (high)] instPowNat

/-- A double, as its bits: sign, eleven bits of exponent, 52 bits of fraction. -/
structure Double where
  bits : UInt64
deriving DecidableEq, Inhabited

namespace Double

/-- The bits without the sign. They ascend with the absolute value. -/
def magnitude (d : Double) : Nat := d.bits.toNat % 2 ^ (63 : Nat)

/-- Whether the sign bit is set. -/
def isNegative (d : Double) : Bool := 2 ^ (63 : Nat) ≤ d.bits.toNat

/-- The magnitude of the infinities; that of a NaN is larger. -/
def infinite : Nat := 0x7ff0000000000000

def isNaN (d : Double) : Bool := infinite < d.magnitude

def isFinite (d : Double) : Bool := d.magnitude < infinite

/-- Whether the double is one of the two zeros. -/
def isZero (d : Double) : Bool := d.magnitude == 0

/-- The place of a double that is a number on the line of all doubles: the two zeros are at zero,
and a larger number is at a larger place. -/
def rank (d : Double) : Int := if d.isNegative then -(d.magnitude : Int) else d.magnitude

/-- The order of two numbers; a NaN has none with anything. -/
def compare? (a b : Double) : Option Ordering :=
  if a.isNaN || b.isNaN then none else some (compare a.rank b.rank)

/-- Whether two doubles are the same number: the zeros are, a NaN and itself are not. -/
def equal (a b : Double) : Bool := a.compare? b == some .eq

/-- The double as a machine number. -/
def toFloat (d : Double) : Float := Float.ofBits d.bits

/-- The double that a machine number is. -/
def ofFloat (x : Float) : Double := ⟨x.toBits⟩

def zero : Double := ⟨0⟩

/-- The significand and the binary exponent of a finite double: its absolute value is
`m * 2 ^ q` for `(m, q)`. -/
def parts (d : Double) : Nat × Int :=
  let e : Nat := d.magnitude / 2 ^ (52 : Nat)
  let f : Nat := d.magnitude % 2 ^ (52 : Nat)
  if e = 0 then (f, -1074) else (f + 2 ^ (52 : Nat), (e : Int) - 1075)

end Double

end Bazaar
