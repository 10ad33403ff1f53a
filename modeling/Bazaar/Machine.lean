/-!
Machine numbers, where the library leaves them: a product and a sum with one rounding, and the
functions of angles. How a platform computes the latter is laid down nowhere, so they are a
parameter, and what holds of distances holds for all of them.
-/

namespace Bazaar

namespace Machine

open Float.Model UnpackedFloat

/-- The product of two numbers, and its sum with a third, by their parts: the exact sum, rounded
once. -/
def mulAddParts : UnpackedFloat → UnpackedFloat → UnpackedFloat → UnpackedFloat
  | .finite s m e _, .finite t n f _, .finite u k g _ =>
    let unit := min (e + f) g
    let product := (s * t).apply (decreaseExponent (m * n) (e + f) unit).1
    normalize .binary64 (product + u.apply (decreaseExponent k g unit).1) unit .positive
  -- a product that is not zero is not changed by a zero, however small it is
  | .finite s m e hm, .finite t n f hn, .zero _ =>
    mul .binary64 (.finite s m e hm) (.finite t n f hn)
  -- nor does it leave the range before it is added
  | .finite .., .finite .., z => z
  | x, y, z => add .binary64 (mul .binary64 x y) z

/-- The product of two numbers, and its sum with a third, rounded once. -/
def mulAdd (x y z : Float) : Float :=
  .ofModel (.pack (mulAddParts x.toModel.unpack y.toModel.unpack z.toModel.unpack))

/-- Of the square of the number after one, a product that is rounded first keeps no last bit. -/
example :
    let x := Float.ofBits 0x3ff0000000000001
    let z := Float.ofBits 0xbff0000000000002
    mulAdd x x z = Float.ofBits 0x3970000000000000 ∧ x * x + z = 0 := by decide +kernel

end Machine

/-- The functions of angles, which are in radians. -/
class Trigonometry where
  sin : Float → Float
  cos : Float → Float
  asin : Float → Float

/-- The functions of the platform. -/
@[reducible] def Trigonometry.ofPlatform : Trigonometry := ⟨Float.sin, Float.cos, Float.asin⟩

end Bazaar
