import Bazaar.Amount
import Bazaar.Double
import Mathlib

/-!
Machine numbers and their zeros. A zero of either sign is neutral for sums and differences, and a
finite number times a zero is a zero. Sums and differences respect being the same number, where the
two zeros count as one (`Alike.add`, `Alike.sub`).
-/

namespace Bazaar

open Float.Model UnpackedFloat

namespace Machine

variable {w x x' y y' z z' : Float}

/-! ### Zeros -/

theorem beq_zero_iff : (x == 0) = true ↔ ∃ s, x.toModel.unpack = .zero s := by
  change x.toModel.unpack.beq (.zero .positive) = true ↔ _
  rw [beq_iff_ne_notANumber_and_eq]
  constructor
  · rintro ⟨-, -, h | ⟨-, h⟩ | ⟨h, -⟩⟩
    · exact ⟨.positive, h⟩
    · cases h
    · exact ⟨.negative, h⟩
  · rintro ⟨_ | _, h⟩
    · simp [h]
    · simp [h]

/-- **Machine numbers are alike** if they are the same or compare as equal: then they differ at most
by the sign of a zero. -/
def Alike (x y : Float) : Prop := x = y ∨ (x == y) = true

instance (x y : Float) : Decidable (Alike x y) := by unfold Alike; infer_instance

theorem alike_iff : Alike x y ↔ x = y ∨ (x == 0) = true ∧ (y == 0) = true := by
  constructor
  · rintro (h | h)
    · exact .inl h
    · obtain ⟨-, -, h | ⟨rfl, rfl⟩ | ⟨rfl, rfl⟩⟩ := Float.beq_iff_ne_nan_and_eq.1 h
      · exact .inl h
      · exact .inr ⟨rfl, rfl⟩
      · exact .inr ⟨rfl, rfl⟩
  · exact Or.imp_right fun ⟨hx, hy⟩ => BEq.trans hx (BEq.symm hy)

theorem Alike.refl (x : Float) : Alike x x := .inl rfl

theorem Alike.symm (h : Alike x y) : Alike y x := h.imp Eq.symm BEq.symm

theorem Alike.trans (hxy : Alike x y) (hyz : Alike y z) : Alike x z := by
  obtain rfl | hxy := hxy
  · exact hyz
  obtain rfl | hyz := hyz
  · exact .inr hxy
  · exact .inr (BEq.trans hxy hyz)

/-- What is like a zero is one. -/
theorem Alike.beq_zero (h : Alike x y) (hy : (y == 0) = true) : (x == 0) = true := by
  obtain rfl | h := h
  · exact hy
  · exact BEq.trans h hy

/-! ### Sums, differences and products -/

theorem ofModel_pack (x : Float) : Float.ofModel (.pack x.toModel.unpack) = x := by
  refine Float.toBits_inj.1 ?_
  exact congrArg UInt64.ofBitVec (pack_unpack_of_valid x.toModel.valid)

theorem beq_zero_ofModel_pack (s : Sign) :
    (Float.ofModel (Float.Model.pack (.zero s)) == 0) = true :=
  beq_zero_iff.2 ⟨s, unpack_packedZero⟩

/-- Whether the parts of two machine numbers are the same, the two zeros counting as one. -/
def AlikeParts (u v : UnpackedFloat) : Prop := u = v ∨ (∃ s, u = .zero s) ∧ ∃ s, v = .zero s

theorem AlikeParts.pack {u v : UnpackedFloat} (h : AlikeParts u v) :
    Alike (.ofModel (.pack u)) (.ofModel (.pack v)) := by
  obtain rfl | ⟨⟨s, rfl⟩, t, rfl⟩ := h
  · exact .refl _
  · exact alike_iff.2 (.inr ⟨beq_zero_ofModel_pack s, beq_zero_ofModel_pack t⟩)

theorem exists_ite_eq_zero (c : Bool) (s t : Sign) :
    ∃ r, (if c then .zero s else .zero t : UnpackedFloat) = .zero r := by
  cases c
  · exact ⟨t, rfl⟩
  · exact ⟨s, rfl⟩

theorem add_zero (hz : (z == 0) = true) : Alike (x + z) x := by
  have h : ∀ u s, AlikeParts (UnpackedFloat.add .binary64 u (.zero s)) u := fun u s => by
    cases u with
    | zero t => exact .inr ⟨exists_ite_eq_zero .., t, rfl⟩
    | infinity | notANumber | finite => exact .inl rfl
  obtain ⟨s, hs⟩ := beq_zero_iff.1 hz
  have hsum := (h x.toModel.unpack s).pack
  rwa [← hs, ofModel_pack] at hsum

theorem zero_add (hz : (z == 0) = true) : Alike (z + y) y := by
  have h : ∀ u s, AlikeParts (UnpackedFloat.add .binary64 (.zero s) u) u := fun u s => by
    cases u with
    | zero t => exact .inr ⟨exists_ite_eq_zero .., t, rfl⟩
    | infinity | notANumber | finite => exact .inl rfl
  obtain ⟨s, hs⟩ := beq_zero_iff.1 hz
  have hsum := (h y.toModel.unpack s).pack
  rwa [← hs, ofModel_pack] at hsum

theorem sub_zero (hz : (z == 0) = true) : Alike (x - z) x := by
  have h : ∀ u s, AlikeParts (UnpackedFloat.sub .binary64 u (.zero s)) u := fun u s => by
    cases u with
    | zero t => exact .inr ⟨exists_ite_eq_zero .., t, rfl⟩
    | infinity | notANumber | finite => exact .inl rfl
  obtain ⟨s, hs⟩ := beq_zero_iff.1 hz
  have hdiff := (h x.toModel.unpack s).pack
  rwa [← hs, ofModel_pack] at hdiff

/-- From which of the zeros a number is taken makes no difference. -/
theorem zero_sub (hz : (z == 0) = true) (hz' : (z' == 0) = true) : Alike (z - y) (z' - y) := by
  have h : ∀ u s t, AlikeParts (UnpackedFloat.sub .binary64 (.zero s) u)
      (UnpackedFloat.sub .binary64 (.zero t) u) := fun u s t => by
    cases u with
    | zero => exact .inr ⟨exists_ite_eq_zero .., exists_ite_eq_zero ..⟩
    | infinity | notANumber | finite => exact .inl rfl
  obtain ⟨s, hs⟩ := beq_zero_iff.1 hz
  obtain ⟨t, ht⟩ := beq_zero_iff.1 hz'
  have hdiff := (h y.toModel.unpack s t).pack
  rwa [← hs, ← ht] at hdiff

theorem Alike.add (hx : Alike x x') (hy : Alike y y') : Alike (x + y) (x' + y') := by
  obtain rfl | ⟨hx, hx'⟩ := alike_iff.1 hx
  · obtain rfl | ⟨hy, hy'⟩ := alike_iff.1 hy
    · exact .refl _
    · exact (add_zero hy).trans (add_zero hy').symm
  · exact (zero_add hx).trans (hy.trans (zero_add hx').symm)

theorem Alike.sub (hx : Alike x x') (hy : Alike y y') : Alike (x - y) (x' - y') := by
  obtain rfl | ⟨hy, hy'⟩ := alike_iff.1 hy
  · obtain rfl | ⟨hx, hx'⟩ := alike_iff.1 hx
    · exact .refl _
    · exact zero_sub hx hx'
  · exact (sub_zero hy).trans (hx.trans (sub_zero hy').symm)

theorem parts_of_isFinite (hw : w.isFinite = true) : (∃ s, w.toModel.unpack = .zero s) ∨
    ∃ s m e h, w.toModel.unpack = .finite s m e h := by
  change w.toModel.unpack.isFinite = true at hw
  cases h : w.toModel.unpack with
  | zero s => exact .inl ⟨s, rfl⟩
  | finite s m e hm => exact .inr ⟨s, m, e, hm, rfl⟩
  | infinity | notANumber =>
    rw [h] at hw
    cases hw

/-- A finite number times a zero is a zero. -/
theorem mul_zero (hw : w.isFinite = true) (hz : (z == 0) = true) : (w * z == 0) = true := by
  obtain ⟨s, hs⟩ := beq_zero_iff.1 hz
  have hparts : ∃ t, UnpackedFloat.mul .binary64 w.toModel.unpack z.toModel.unpack = .zero t := by
    obtain ⟨t, ht⟩ | ⟨t, m, e, hm, ht⟩ := parts_of_isFinite hw
    · exact ⟨t * s, by rw [ht, hs]; rfl⟩
    · exact ⟨t * s, by rw [ht, hs]; rfl⟩
  obtain ⟨t, ht⟩ := hparts
  have hzero := beq_zero_ofModel_pack t
  rwa [← ht] at hzero

/-- A zero times a finite number is a zero. -/
theorem zero_mul (hz : (z == 0) = true) (hw : w.isFinite = true) : (z * w == 0) = true := by
  obtain ⟨s, hs⟩ := beq_zero_iff.1 hz
  have hparts : ∃ t, UnpackedFloat.mul .binary64 z.toModel.unpack w.toModel.unpack = .zero t := by
    obtain ⟨t, ht⟩ | ⟨t, m, e, hm, ht⟩ := parts_of_isFinite hw
    · exact ⟨s * t, by rw [hs, ht]; rfl⟩
    · exact ⟨s * t, by rw [hs, ht]; rfl⟩
  obtain ⟨t, ht⟩ := hparts
  have hzero := beq_zero_ofModel_pack t
  rwa [← ht] at hzero

/-- A zero times what is no finite number is no number. -/
theorem zero_mul_eq_nan (hz : (z == 0) = true) (hw : w.isFinite = false) : z * w = .nan := by
  obtain ⟨s, hs⟩ := beq_zero_iff.1 hz
  change w.toModel.unpack.isFinite = false at hw
  have hparts : UnpackedFloat.mul .binary64 z.toModel.unpack w.toModel.unpack = .notANumber := by
    rw [hs]
    cases h : w.toModel.unpack with
    | infinity | notANumber => rfl
    | zero | finite =>
      rw [h] at hw
      cases hw
  exact congrArg (fun u => Float.ofModel (.pack u)) hparts

/-- A zero makes a zero of just the finite numbers. -/
theorem zero_mul_iff (hz : (z == 0) = true) : (z * w == 0) = true ↔ w.isFinite = true := by
  refine ⟨fun hzero => ?_, zero_mul hz⟩
  by_contra hw
  rw [zero_mul_eq_nan hz (Bool.eq_false_iff.2 hw)] at hzero
  cases hzero

end Machine

/-! ### Doubles and amounts -/

/-- The exponent of a finite double is not the greatest. -/
theorem Double.unpackExponent_ne {d : Double} (h : d.isFinite = true) :
    @unpackExponent .binary64 d.bits.toBitVec ≠ -1#_ := by
  intro hones
  have hexp := congrArg BitVec.toNat hones
  rw [unpackExponent, BitVec.toNat_cast, BitVec.extractLsb_toNat, Nat.shiftRight_eq_div_pow] at hexp
  have hexp : d.bits.toNat / 2 ^ 52 % 2 ^ 11 = 2047 := hexp
  have hmagnitude : d.magnitude < infinite := of_decide_eq_true h
  unfold magnitude infinite at hmagnitude
  omega

theorem Double.isFinite_toFloat {d : Double} (h : d.isFinite = true) : d.toFloat.isFinite = true := by
  have hones := d.unpackExponent_ne h
  change (UnpackedFloat.unpack .binary64
    (UnpackedFloat.pack .binary64 (UnpackedFloat.unpack .binary64 d.bits.toBitVec))).isFinite = true
  rw [pack_unpack_of_valid ⟨fun h => absurd h hones⟩]
  unfold UnpackedFloat.unpack
  rw [if_neg hones]
  split
  · split
    · rfl
    · rfl
  · rfl

theorem Amount.toFloat_zero : (Amount.toFloat 0 == 0) = true := by decide +kernel

end Bazaar
