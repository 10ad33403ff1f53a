import Mathlib
import Bazaar.Wire.Field

/-!
Fields that are written are read back: numbers in groups of seven bits and of eight, keys and
payloads, and then all fields of a message (`readFields?_writeFields`). A block can be read back if
its length is a number of 64 bits, which it is if the message as a whole is no longer than that.
-/

namespace Bazaar.Wire

/-! ### Numbers -/

namespace Varint

theorem toNat_ofNat_lt {n : Nat} (h : n < 256) : n.toUInt8.toNat = n := by
  simp only [Nat.toUInt8, UInt8.toNat_ofNat']
  omega

theorem readUpTo_write {count n : Nat} (rest : List UInt8) (h : n < 2 ^ (7 * count + 1)) :
    readUpTo (count + 1) (write n ++ rest) = some (n, rest) := by
  -- every group but the last takes seven bits off the bound, and the last one has a single bit
  induction count generalizing n with
  | zero =>
    have hn : n.toUInt8.toNat = n := toNat_ofNat_lt (by omega)
    have hb : n.toUInt8 < 128 := UInt8.lt_iff_toNat_lt.2 (by rw [hn]; simp; omega)
    have hb' : ¬ 2 ≤ n.toUInt8 := fun h₂ => by
      have := UInt8.le_iff_toNat_le.1 h₂
      rw [hn] at this
      change 2 ≤ n at this
      omega
    rw [write, if_pos (by omega), List.singleton_append, readUpTo, if_pos hb,
      if_neg (fun hh => hb' hh.2), hn]
  | succ count ih =>
    by_cases hlt : n < 128
    · have hn : n.toUInt8.toNat = n := toNat_ofNat_lt (by omega)
      have hb : n.toUInt8 < 128 := UInt8.lt_iff_toNat_lt.2 (by rw [hn]; simpa using hlt)
      rw [write, if_pos hlt, List.singleton_append, readUpTo, if_pos hb, if_neg (by omega), hn]
    · have hn : (n % 128 + 128).toUInt8.toNat = n % 128 + 128 := toNat_ofNat_lt (by omega)
      have hb : ¬ (n % 128 + 128).toUInt8 < 128 := fun hb => by
        have := UInt8.lt_iff_toNat_lt.1 hb
        rw [hn] at this
        change n % 128 + 128 < 128 at this
        omega
      have hdiv : n / 128 < 2 ^ (7 * count + 1) := by
        rw [Nat.div_lt_iff_lt_mul (by decide)]
        calc n < 2 ^ (7 * (count + 1) + 1) := h
          _ = 2 ^ (7 * count + 1) * 128 := by rw [Nat.mul_succ, Nat.add_right_comm, Nat.pow_add]
      rw [write, if_neg hlt, List.cons_append, readUpTo, if_neg hb, ih hdiv, hn]
      simp only [Option.map_some, Option.some.injEq, Prod.mk.injEq, and_true]
      omega

/-- A number of up to 64 bits is read back. -/
theorem read?_write {n : Nat} (h : n < 2 ^ 64) (rest : List UInt8) :
    read? (write n ++ rest) = some (n, rest) := readUpTo_write rest h

theorem write_ne_nil (n : Nat) : write n ≠ [] := by
  rw [write]
  split <;> simp

end Varint

theorem length_lowBytes (count n : Nat) : (lowBytes count n).length = count := by
  induction count generalizing n with
  | zero => rfl
  | succ count ih => rw [lowBytes, List.length_cons, ih]

theorem littleEndian_lowBytes {count n : Nat} (h : n < 256 ^ count) :
    littleEndian (lowBytes count n) = n := by
  induction count generalizing n with
  | zero =>
    rw [Nat.pow_zero] at h
    obtain rfl : n = 0 := by omega
    rfl
  | succ count ih =>
    have hdiv : n / 256 < 256 ^ count := by
      rw [Nat.div_lt_iff_lt_mul (by decide)]
      rwa [Nat.pow_succ] at h
    have hih := ih hdiv
    simp only [littleEndian] at hih
    simp only [lowBytes, littleEndian, List.foldr_cons, hih, Nat.toUInt8, UInt8.toNat_ofNat']
    omega

theorem split?_append (as bs : List UInt8) : split? as.length (as ++ bs) = some (as, bs) := by
  rw [split?, if_pos (by rw [List.length_append]; omega), List.take_left, List.drop_left]

theorem split?_lowBytes (count n : Nat) (rest : List UInt8) :
    split? count (lowBytes count n ++ rest) = some (lowBytes count n, rest) := by
  have h := split?_append (lowBytes count n) rest
  rwa [length_lowBytes] at h

/-! ### One field -/

/-- A number that fits the key of a field. -/
def IsNumber (n : Nat) : Prop := 0 < n ∧ n < 2 ^ 29
deriving Decidable

/-- A field that can be read back: its number fits a key, and it is no group. -/
def Field.IsPlain (f : Field) : Prop := IsNumber f.number ∧ f.payload ≠ .group

/-- Fields that can all be read back. -/
def ArePlain (fs : List Field) : Prop := ∀ f ∈ fs, f.IsPlain

@[simp] theorem arePlain_nil : ArePlain [] := nofun

@[simp] theorem arePlain_cons {f : Field} {fs : List Field} :
    ArePlain (f :: fs) ↔ f.IsPlain ∧ ArePlain fs := List.forall_mem_cons

@[simp] theorem arePlain_append {fs gs : List Field} :
    ArePlain (fs ++ gs) ↔ ArePlain fs ∧ ArePlain gs := List.forall_mem_append

/-- The bytes of a payload behind its key. -/
def Payload.body : Payload → List UInt8
  | .varint n => Varint.write n.toNat
  | .fixed64 n => lowBytes 8 n.toNat
  | .block bytes => Varint.write bytes.length ++ bytes
  | .group => []
  | .fixed32 n => lowBytes 4 n.toNat

theorem write_eq {f : Field} (h : f.payload ≠ .group) :
    f.write = writeKey f.number f.payload.code ++ f.payload.body := by
  obtain ⟨number, payload⟩ := f
  cases payload with
  | group => exact absurd rfl h
  | varint | fixed64 | block | fixed32 => rfl

theorem readPayload?_body {number : Nat} {p : Payload} (hp : p ≠ .group)
    (hs : p.body.length < 2 ^ 64) (rest : List UInt8) :
    readPayload? number p.code (p.body ++ rest) = some (.field ⟨number, p⟩, rest) := by
  cases p with
  | varint n =>
    simp [readPayload?, Payload.code, Payload.body, Varint.read?_write n.toNat_lt]
  | fixed64 n =>
    have h : n.toNat < 256 ^ 8 := n.toNat_lt
    simp [readPayload?, Payload.code, Payload.body, split?_lowBytes, littleEndian_lowBytes h]
  | block bytes =>
    have h : bytes.length < 2 ^ 64 := by
      rw [Payload.body, List.length_append] at hs
      omega
    simp [readPayload?, Payload.code, Payload.body, Varint.read?_write h, split?_append]
  | group => exact absurd rfl hp
  | fixed32 n =>
    have h : n.toNat < 256 ^ 4 := n.toNat_lt
    simp [readPayload?, Payload.code, Payload.body, split?_lowBytes, littleEndian_lowBytes h]

theorem code_lt (p : Payload) : p.code < 8 := by cases p <;> simp [Payload.code]

theorem readMark?_write {f : Field} (hf : f.IsPlain) (hs : f.write.length < 2 ^ 64)
    (rest : List UInt8) : readMark? (f.write ++ rest) = some (.field f, rest) := by
  obtain ⟨⟨hpos, hlt⟩, hp⟩ := hf
  have hc := code_lt f.payload
  have hkey : 8 * f.number + f.payload.code < 2 ^ 32 := by omega
  have hbody : f.payload.body.length < 2 ^ 64 := by
    rw [write_eq hp, List.length_append] at hs
    omega
  have hdiv : (8 * f.number + f.payload.code) / 8 = f.number := by omega
  have hmod : (8 * f.number + f.payload.code) % 8 = f.payload.code := by omega
  rw [write_eq hp, writeKey, List.append_assoc, readMark?, Varint.read?_write (by omega),
    Option.bind_some]
  simp only [hdiv, hmod]
  rw [if_pos ⟨hkey, by omega⟩, readPayload?_body hp hbody]

theorem write_ne_nil (f : Field) : f.write ≠ [] := by
  rw [Field.write, writeKey]
  intro h
  exact Varint.write_ne_nil _ (List.append_eq_nil_iff.1 h).1

/-! ### All fields of a message -/

theorem writeFields_cons (f : Field) (fs : List Field) :
    writeFields (f :: fs) = f.write ++ writeFields fs := List.flatMap_cons

theorem writeFields_append (fs gs : List Field) :
    writeFields (fs ++ gs) = writeFields fs ++ writeFields gs := List.flatMap_append

theorem readMarks?_cons {bs : List UInt8} {r : Mark × List UInt8} (h : readMark? bs = some r)
    (hne : bs ≠ []) : readMarks? bs = (readMarks? r.2).map (r.1 :: ·) := by
  rw [readMarks?, if_neg (by simpa using hne)]
  split
  · rename_i hn
    rw [h] at hn
    cases hn
  · rename_i r' hr
    rw [h] at hr
    cases hr
    rfl

theorem readMarks?_writeFields {fs : List Field} (hf : ArePlain fs)
    (hs : (writeFields fs).length < 2 ^ 64) :
    readMarks? (writeFields fs) = some (fs.map .field) := by
  induction fs with
  | nil =>
    rw [writeFields, List.flatMap_nil, readMarks?]
    rfl
  | cons f fs ih =>
    rw [writeFields_cons, List.length_append] at hs
    obtain ⟨hf, hfs⟩ := arePlain_cons.1 hf
    have hr := readMark?_write hf (by omega) (writeFields fs)
    have hne : f.write ++ writeFields fs ≠ [] := fun h =>
      write_ne_nil f (List.append_eq_nil_iff.1 h).1
    rw [writeFields_cons, readMarks?_cons hr hne, ih hfs (by omega)]
    rfl

theorem fieldsOfMarks?_field (budget : Nat) (fs : List Field) :
    fieldsOfMarks? budget [] (fs.map .field) = some fs := by
  induction fs with
  | nil => rfl
  | cons f fs ih => rw [List.map_cons, fieldsOfMarks?, ih, Option.map_some]

/-- **Fields are read back**, whatever the budget: none of them is a group. -/
theorem readFields?_writeFields {fs : List Field} (budget : Nat) (hf : ArePlain fs)
    (hs : (writeFields fs).length < 2 ^ 64) : readFields? budget (writeFields fs) = some fs := by
  rw [readFields?, readMarks?_writeFields hf hs, Option.bind_some, fieldsOfMarks?_field]

end Bazaar.Wire
