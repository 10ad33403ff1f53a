import Bazaar.Proofs.Float
import Bazaar.Proofs.Search.Comparison

/-!
Distances and the sign of zero. Two coordinates that are the same number may be the two zeros, and
an angle of zero keeps its sign in radians; what becomes of it then is up to the functions of
angles.
Main statement: where these do not tell the two zeros apart (`Trigonometry.IgnoresZeroSign`), no
distance does (`Place.distance_congr`).
-/

namespace Bazaar

/-! ### Machine numbers that are alike -/

namespace Machine

open Float.Model UnpackedFloat

variable {w x y : Float}

theorem Alike.mul (h : Alike x y) (hw : w.isFinite = true) : Alike (x * w) (y * w) := by
  obtain rfl | ⟨hx, hy⟩ := alike_iff.1 h
  · exact .refl _
  · exact alike_iff.2 (.inr ⟨zero_mul hx hw, zero_mul hy hw⟩)

/-- The square of either zero is the zero without a sign. -/
theorem mul_self_of_zero (h : (x == 0) = true) : x * x = 0 := by
  obtain ⟨s, hs⟩ := beq_zero_iff.1 h
  have hparts : UnpackedFloat.mul .binary64 x.toModel.unpack x.toModel.unpack =
      .zero .positive := by
    rw [hs]
    cases s <;> rfl
  exact congrArg (fun u => Float.ofModel (.pack u)) hparts

theorem Alike.mul_self (h : Alike x y) : x * x = y * y := by
  obtain rfl | ⟨hx, hy⟩ := alike_iff.1 h
  · rfl
  · rw [mul_self_of_zero hx, mul_self_of_zero hy]

end Machine

theorem Double.toFloat_of_isZero {d : Double} (h : d.isZero = true) : (d.toFloat == 0) = true := by
  have hbits : d.bits = 0 ∨ d.bits = 0x8000000000000000 := by
    have hmagnitude : d.bits.toNat % 2 ^ 63 = 0 := eq_of_beq h
    have hlt := d.bits.toNat_lt
    have hnat : d.bits.toNat = 0 ∨ d.bits.toNat = 2 ^ 63 := by omega
    exact hnat.imp UInt64.toNat_inj.1 UInt64.toNat_inj.1
  rw [toFloat]
  rcases hbits with hbits | hbits <;> rw [hbits] <;> decide +kernel

/-- Doubles that are the same number are alike as machine numbers. -/
theorem Double.alike_toFloat {a b : Double} (h : a.equal b = true) :
    Machine.Alike a.toFloat b.toFloat := by
  obtain rfl | ⟨ha, hb⟩ := Double.eq_or_isZero (eq_of_beq h)
  · exact .refl _
  · exact Machine.alike_iff.2 (.inr ⟨toFloat_of_isZero ha, toFloat_of_isZero hb⟩)

/-! ### Angles -/

open Trigonometry (sin cos)

/-- **The functions of angles do not tell the two zeros apart**: the sine of a zero is a zero, and
the cosine of both is the same. -/
structure Trigonometry.IgnoresZeroSign [Trigonometry] : Prop where
  sin_zero : ∀ x : Float, (x == 0) = true → (sin x == 0) = true
  cos_zero : ∀ x y : Float, (x == 0) = true → (y == 0) = true → cos x = cos y

namespace Trigonometry.IgnoresZeroSign

open Machine (Alike alike_iff)

variable [Trigonometry] {x y : Float}

theorem alike_sin (h : IgnoresZeroSign) (hxy : Alike x y) : Alike (sin x) (sin y) := by
  obtain rfl | ⟨hx, hy⟩ := alike_iff.1 hxy
  · exact .refl _
  · exact alike_iff.2 (.inr ⟨h.sin_zero x hx, h.sin_zero y hy⟩)

theorem cos_eq (h : IgnoresZeroSign) (hxy : Alike x y) : cos x = cos y := by
  obtain rfl | ⟨hx, hy⟩ := alike_iff.1 hxy
  · rfl
  · exact h.cos_zero x y hx hy

end Trigonometry.IgnoresZeroSign

namespace Search.Place

open Machine (Alike)
open Trigonometry (IgnoresZeroSign)

/-- Places that are the same, or equal: their coordinates differ at most by the sign of a zero. -/
def Coincides (p q : Place) : Prop := p = q ∨ p.equal q = true

theorem radians_alike {a b : Double} (h : Alike a.toFloat b.toFloat) :
    Alike (radians a) (radians b) := h.mul (by decide +kernel)

theorem Coincides.alike_radians {p q : Place} (h : p.Coincides q) :
    Alike (radians p.latitude) (radians q.latitude) ∧
      Alike (radians p.longitude) (radians q.longitude) := by
  rcases h with rfl | h
  · exact ⟨.refl _, .refl _⟩
  · obtain ⟨hlat, hlong⟩ := Bool.and_eq_true_iff.1 h
    exact ⟨radians_alike (Double.alike_toFloat hlat), radians_alike (Double.alike_toFloat hlong)⟩

variable [Trigonometry]

theorem haversine_eq (h : IgnoresZeroSign) {x y : Float} (hxy : Alike x y) :
    haversine x = haversine y := (h.alike_sin (hxy.mul (by decide +kernel))).mul_self

/-- **No distance tells the two zeros apart**, if the functions of angles do not. -/
theorem distance_congr (h : IgnoresZeroSign) {p p' q q' : Place} (hp : p.Coincides p')
    (hq : q.Coincides q') : p.distance q = p'.distance q' := by
  obtain ⟨hplat, hplong⟩ := hp.alike_radians
  obtain ⟨hqlat, hqlong⟩ := hq.alike_radians
  rw [distance, distance, haversine_eq h (hqlong.sub hplong), haversine_eq h (hqlat.sub hplat),
    h.cos_eq hplat, h.cos_eq hqlat]

end Search.Place

end Bazaar
