/-!
Whole numbers in groups of seven bits, the lowest first: every byte but the last has its high bit
set. Numbers of up to 64 bits are read, which take at most ten bytes; leading zeros are allowed.
-/

namespace Bazaar.Wire.Varint

/-- The bytes of a number. -/
def write (n : Nat) : List UInt8 :=
  if n < 128 then [n.toUInt8] else (n % 128 + 128).toUInt8 :: write (n / 128)
termination_by n
decreasing_by omega

/-- Reads a number of at most `count` bytes, of which the last has only its lowest bit if all of
them are used; also what follows it. -/
def readUpTo : (count : Nat) → List UInt8 → Option (Nat × List UInt8)
  | 0, _ => none
  | _, [] => none
  | count + 1, b :: bs =>
    if b < 128 then
      if count = 0 ∧ 2 ≤ b then none else some (b.toNat, bs)
    else (readUpTo count bs).map fun r => (b.toNat - 128 + 128 * r.1, r.2)

/-- Reads a number of up to 64 bits; also what follows it. -/
def read? (bs : List UInt8) : Option (Nat × List UInt8) := readUpTo 10 bs

/-! ### Reading makes progress -/

theorem length_lt_of_readUpTo {count : Nat} {bs : List UInt8} {r : Nat × List UInt8}
    (h : readUpTo count bs = some r) : r.2.length < bs.length := by
  induction count generalizing bs r with
  | zero => simp [readUpTo] at h
  | succ count ih =>
    cases bs with
    | nil => simp [readUpTo] at h
    | cons b bs =>
      rw [readUpTo] at h
      split at h
      · split at h
        · cases h
        · cases h
          simp
      · obtain ⟨q, hq, rfl⟩ := Option.map_eq_some_iff.1 h
        have hl := ih hq
        exact Nat.lt_succ_of_lt hl

theorem length_lt_of_read? {bs : List UInt8} {r : Nat × List UInt8} (h : read? bs = some r) :
    r.2.length < bs.length := length_lt_of_readUpTo h

end Bazaar.Wire.Varint
