import Bazaar.Wire.Varint

/-!
The fields of a message: numbered payloads, one after the other, each behind a key that holds its
number and how its payload is written. A group, whose fields stand between an opening and a closing
key, is passed over; it may hold groups, up to a depth.
-/

namespace Bazaar.Wire

-- powers are those of the core library, whatever else is imported
attribute [local instance (high)] instPowNat

/-- What a field holds. -/
inductive Payload where
  | varint (n : UInt64)
  | fixed64 (n : UInt64)
  | block (bytes : List UInt8)
  /-- A group of fields, whatever they are. -/
  | group
  | fixed32 (n : UInt32)
deriving DecidableEq

/-- A numbered payload. -/
structure Field where
  number : Nat
  payload : Payload
deriving DecidableEq

/-! ### Bytes -/

/-- The number that bytes stand for, the lowest first. -/
def littleEndian (bs : List UInt8) : Nat := bs.foldr (fun b n => b.toNat + 256 * n) 0

/-- The lowest bytes of a number, the lowest first. -/
def lowBytes : (count : Nat) → Nat → List UInt8
  | 0, _ => []
  | count + 1, n => n.toUInt8 :: lowBytes count (n / 256)

/-- A number of bytes, and what follows them. -/
def split? (count : Nat) (bs : List UInt8) : Option (List UInt8 × List UInt8) :=
  if count ≤ bs.length then some (bs.take count, bs.drop count) else none

theorem length_le_of_split? {count : Nat} {bs : List UInt8} {r : List UInt8 × List UInt8}
    (h : split? count bs = some r) : r.2.length ≤ bs.length := by
  rw [split?] at h
  split at h
  · cases h
    simp
  · cases h

/-! ### Writing -/

/-- How a payload is written, as its key tells. -/
def Payload.code : Payload → Nat
  | .varint _ => 0
  | .fixed64 _ => 1
  | .block _ => 2
  | .group => 3
  | .fixed32 _ => 5

/-- The bytes of a key. -/
def writeKey (number code : Nat) : List UInt8 := Varint.write (8 * number + code)

/-- The bytes of a field. A group is written with no fields. -/
def Field.write (f : Field) : List UInt8 :=
  writeKey f.number f.payload.code ++
    match f.payload with
    | .varint n => Varint.write n.toNat
    | .fixed64 n => lowBytes 8 n.toNat
    | .block bytes => Varint.write bytes.length ++ bytes
    | .group => writeKey f.number 4
    | .fixed32 n => lowBytes 4 n.toNat

/-- The bytes of fields. -/
def writeFields (fs : List Field) : List UInt8 := fs.flatMap Field.write

/-! ### Reading -/

/-- What stands behind one key. -/
inductive Mark where
  | field (f : Field)
  | opening (number : Nat)
  | closing (number : Nat)
deriving DecidableEq

/-- Reads a payload, or the start or the end of a group. -/
def readPayload? (number code : Nat) (bs : List UInt8) : Option (Mark × List UInt8) :=
  match code with
  | 0 => (Varint.read? bs).map fun r => (.field ⟨number, .varint r.1.toUInt64⟩, r.2)
  | 1 => (split? 8 bs).map fun r => (.field ⟨number, .fixed64 (littleEndian r.1).toUInt64⟩, r.2)
  | 2 =>
    (Varint.read? bs).bind fun r =>
      (split? r.1 r.2).map fun r => (.field ⟨number, .block r.1⟩, r.2)
  | 3 => some (.opening number, bs)
  | 4 => some (.closing number, bs)
  | 5 => (split? 4 bs).map fun r => (.field ⟨number, .fixed32 (littleEndian r.1).toUInt32⟩, r.2)
  | _ => none

/-- Reads a key, of up to 32 bits and with a number other than zero, and what stands behind it. -/
def readMark? (bs : List UInt8) : Option (Mark × List UInt8) :=
  (Varint.read? bs).bind fun r =>
    if r.1 < 2 ^ (32 : Nat) ∧ r.1 / 8 ≠ 0 then readPayload? (r.1 / 8) (r.1 % 8) r.2 else none

theorem length_le_of_readPayload? {number code : Nat} {bs : List UInt8} {r : Mark × List UInt8}
    (h : readPayload? number code bs = some r) : r.2.length ≤ bs.length := by
  unfold readPayload? at h
  split at h
  · obtain ⟨q, hq, rfl⟩ := Option.map_eq_some_iff.1 h
    exact Nat.le_of_lt (Varint.length_lt_of_read? hq)
  · obtain ⟨q, hq, rfl⟩ := Option.map_eq_some_iff.1 h
    exact length_le_of_split? hq
  · obtain ⟨q, hq, h⟩ := Option.bind_eq_some_iff.1 h
    obtain ⟨p, hp, rfl⟩ := Option.map_eq_some_iff.1 h
    exact Nat.le_trans (length_le_of_split? hp) (Nat.le_of_lt (Varint.length_lt_of_read? hq))
  · cases h
    exact Nat.le_refl _
  · cases h
    exact Nat.le_refl _
  · obtain ⟨q, hq, rfl⟩ := Option.map_eq_some_iff.1 h
    exact length_le_of_split? hq
  · cases h

theorem length_lt_of_readMark? {bs : List UInt8} {r : Mark × List UInt8}
    (h : readMark? bs = some r) : r.2.length < bs.length := by
  obtain ⟨q, hq, h⟩ := Option.bind_eq_some_iff.1 h
  split at h
  · exact Nat.lt_of_le_of_lt (length_le_of_readPayload? h) (Varint.length_lt_of_read? hq)
  · cases h

/-- Reads all marks to the end. -/
def readMarks? (bs : List UInt8) : Option (List Mark) :=
  if bs.isEmpty then some []
  else
    match _h : readMark? bs with
    | none => none
    | some r => (readMarks? r.2).map (r.1 :: ·)
termination_by bs.length
decreasing_by exact length_lt_of_readMark? _h

/-- The fields of a list of marks within groups, of which `opened` are the numbers, the innermost
first. Each group is a field; what it holds is let go. Within a group, and to open one, there have
to be fewer groups around than `budget`. -/
def fieldsOfMarks? (budget : Nat) : (opened : List Nat) → List Mark → Option (List Field)
  | [], [] => some []
  | _ :: _, [] => none
  | [], .field f :: ms => (fieldsOfMarks? budget [] ms).map (f :: ·)
  | n :: ns, .field _ :: ms =>
    if ns.length + 1 < budget then fieldsOfMarks? budget (n :: ns) ms else none
  | [], .opening k :: ms =>
    if 0 < budget then (fieldsOfMarks? budget [k] ms).map (⟨k, .group⟩ :: ·) else none
  | n :: ns, .opening k :: ms =>
    if ns.length + 1 < budget then fieldsOfMarks? budget (k :: n :: ns) ms else none
  | [], .closing _ :: _ => none
  | n :: ns, .closing k :: ms => if k = n then fieldsOfMarks? budget ns ms else none

/-- Reads fields to the end, with groups up to a depth. -/
def readFields? (budget : Nat) (bs : List UInt8) : Option (List Field) :=
  (readMarks? bs).bind (fieldsOfMarks? budget [])

end Bazaar.Wire
