import Bazaar.Double
import Bazaar.Wire.Field

/-!
What the fields of a message stand for: numbers, texts, packed lists and messages within.

A message is read by merging its fields, one after the other, into a message that starts empty
(`merge?`). So of a number or text given twice the later counts, lists grow, and a message within
that is given again is merged into what it was. Reading goes with a budget: how many messages or
groups may still be nested.
-/

namespace Bazaar.Wire

/-! ### Payloads of scalars -/

/-- The payload of a text: its UTF-8 bytes. -/
def ofText (s : String) : Payload := .block s.toUTF8.data.toList

def ofBool (b : Bool) : Payload := .varint (if b then 1 else 0)

def ofInt (i : Int64) : Payload := .varint i.toUInt64

/-- The payload of a code of 32 bits, which is written as one of 64 with the same value. -/
def ofCode (c : Int32) : Payload := ofInt c.toInt64

def ofDouble (d : Double) : Payload := .fixed64 d.bits

/-- The bytes of a block. -/
def Payload.block? : Payload → Option (List UInt8)
  | .block bytes => some bytes
  | _ => none

def Payload.text? : Payload → Option String
  | .block bytes => String.fromUTF8? ⟨bytes.toArray⟩
  | _ => none

/-- A truth value: every number but zero is true. -/
def Payload.bool? : Payload → Option Bool
  | .varint n => some (n != 0)
  | _ => none

def Payload.int? : Payload → Option Int64
  | .varint n => some n.toInt64
  | _ => none

/-- A code of 32 bits: of a larger number the lowest ones. -/
def Payload.code? : Payload → Option Int32
  | .varint n => some n.toUInt32.toInt32
  | _ => none

def Payload.double? : Payload → Option Double
  | .fixed64 n => some ⟨n⟩
  | _ => none

/-! ### Payloads of lists -/

/-- Reads varints to the end. -/
def readVarints? (bs : List UInt8) : Option (List UInt64) :=
  if bs.isEmpty then some []
  else
    match _h : Varint.read? bs with
    | none => none
    | some r => (readVarints? r.2).map (r.1.toUInt64 :: ·)
termination_by bs.length
decreasing_by exact Varint.length_lt_of_read? _h

/-- Reads numbers of eight bytes to the end. -/
def readWords? : List UInt8 → Option (List UInt64)
  | [] => some []
  | a :: b :: c :: d :: e :: f :: g :: h :: bs =>
    (readWords? bs).map ((littleEndian [a, b, c, d, e, f, g, h]).toUInt64 :: ·)
  | _ => none

/-- The payload of a list of varints: all of them in one block. -/
def packVarints (ns : List UInt64) : Payload := .block (ns.flatMap fun n => Varint.write n.toNat)

/-- The payload of a list of numbers of eight bytes: all of them in one block. -/
def packWords (ns : List UInt64) : Payload := .block (ns.flatMap fun n => lowBytes 8 n.toNat)

/-- A list of varints, packed, or one of them. -/
def Payload.varints? : Payload → Option (List UInt64)
  | .varint n => some [n]
  | .block bytes => readVarints? bytes
  | _ => none

/-- A list of doubles, packed, or one of them. -/
def Payload.doubles? : Payload → Option (List Double)
  | .fixed64 n => some [⟨n⟩]
  | .block bytes => (readWords? bytes).map (·.map Double.mk)
  | _ => none

/-- A list of integers, packed, or one of them. -/
def Payload.ints? (p : Payload) : Option (List Int64) := p.varints?.map (·.map UInt64.toInt64)

/-- A list of truth values, packed, or one of them. -/
def Payload.bools? (p : Payload) : Option (List Bool) := p.varints?.map (·.map (· != 0))

/-! ### Writing fields -/

/-- The field of a message within. -/
def embed (number : Nat) (fs : List Field) : Field := ⟨number, .block (writeFields fs)⟩

/-- The field of a text, which is left out if the text is empty. -/
def textField (number : Nat) (s : String) : List Field :=
  if s.isEmpty then [] else [⟨number, ofText s⟩]

/-- The field of a truth value, which is left out if it is false. -/
def boolField (number : Nat) (b : Bool) : List Field := if b then [⟨number, ofBool b⟩] else []

/-- The field of an integer, which is left out if it is zero. -/
def intField (number : Nat) (i : Int64) : List Field := if i = 0 then [] else [⟨number, ofInt i⟩]

/-- The field of a code, which is left out if it is zero. -/
def codeField (number : Nat) (c : Int32) : List Field := if c = 0 then [] else [⟨number, ofCode c⟩]

/-- The field of a double, which is left out if it is one of the zeros. -/
def doubleField (number : Nat) (d : Double) : List Field :=
  if d.isZero then [] else [⟨number, ofDouble d⟩]

/-- The field of a list of which all members stand in one block, which is left out if it is
empty. -/
def packedField {α : Type} (number : Nat) (pack : List α → Payload) (as : List α) : List Field :=
  if as.isEmpty then [] else [⟨number, pack as⟩]

/-! ### Merging fields -/

/-- What a field does to a message that does not know it: nothing, if there is any budget. -/
def skip? {α : Type} (budget : Nat) (a : α) : Option α := if 0 < budget then some a else none

/-- Merges the fields that bytes hold into a message. -/
def merge? {α : Type} (budget : Nat) (step : α → Field → Option α) (a : α) (bs : List UInt8) :
    Option α :=
  (readFields? budget bs).bind (·.foldlM step a)

/-- Merges a message within, which takes one from the budget. -/
def mergeWithin? {α : Type} (budget : Nat) (step : Nat → α → Field → Option α) (a : α)
    (p : Payload) : Option α :=
  match budget, p with
  | below + 1, .block bytes => merge? below (step below) a bytes
  | _, _ => none

/-- Adds the field of a list that is all a message holds. -/
def listStep {α : Type} (read : Payload → Option (List α)) (budget : Nat) (as : List α)
    (f : Field) : Option (List α) :=
  if f.number = 1 then (read f.payload).map (as ++ ·) else skip? budget as

/-- Merges a field of a message that holds two of a kind. -/
def pairStep {α : Type} (read : α → Payload → Option α) (budget : Nat) (p : α × α) (f : Field) :
    Option (α × α) :=
  match f.number with
  | 1 => (read p.1 f.payload).map fun a => (a, p.2)
  | 2 => (read p.2 f.payload).map fun b => (p.1, b)
  | _ => skip? budget p

end Bazaar.Wire
