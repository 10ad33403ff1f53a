import Bazaar.Amount
import Bazaar.Double
import Bazaar.SortedMap

/-!
JSON values as they are read: the members of an object stand in the order of the text, and a name
may stand more than once. A part of the text may be well formed and have no value all the same; this
matters only to who reads that part. The values that are kept and written are canonical: every part
has a value, members are in ascending order, each name once, and numbers are in range.
-/

namespace Bazaar

-- powers are those of the core library, whatever else is imported
attribute [local instance (high)] instPowNat

/-- A JSON value. A number is an integer if it is written as one and is in the range of 64 bits,
signed or unsigned; all others are doubles. -/
inductive Json where
  | null
  | bool (b : Bool)
  | int (n : Int)
  | double (d : Double)
  | text (s : String)
  | array (items : List Json)
  | object (members : List (String × Json))
  /-- What has no value: a string or name that is no text, a number beyond the doubles, or an array
  or object that is nested too deep. -/
  | invalid
deriving Inhabited

namespace Json

/-- The integers that stay integers. -/
def IntRange (n : Int) : Prop := -2 ^ (63 : Nat) ≤ n ∧ n < 2 ^ (64 : Nat)

instance (n : Int) : Decidable (IntRange n) := by unfold IntRange; infer_instance

/-- The members of a map as those of an object. -/
def ofMap {α : Type} (f : α → Json) (m : SortedMap α) : Json :=
  .object (m.entries.map fun e => (e.1, f e.2))

mutual

/-- The value with every object in canonical order, where the last of several members of one name
is kept. -/
def canonical : Json → Json
  | .array items => .array (canonicalItems items)
  | .object members => .object (SortedMap.ofList (canonicalMembers members)).entries
  | v => v

def canonicalItems : List Json → List Json
  | [] => []
  | v :: vs => v.canonical :: canonicalItems vs

def canonicalMembers : List (String × Json) → List (String × Json)
  | [] => []
  | (k, v) :: ms => (k, v.canonical) :: canonicalMembers ms

end

mutual

/-- Whether a value is one that is kept: canonical in every object, with finite doubles and
integers in range. -/
def isCanonical : Json → Bool
  | .int n => IntRange n
  | .double d => d.isFinite
  | .array items => areCanonical items
  | .object members =>
    members.Pairwise (fun p q => p.1 < q.1) && areCanonicalMembers members
  | .invalid => false
  | _ => true

def areCanonical : List Json → Bool
  | [] => true
  | v :: vs => v.isCanonical && areCanonical vs

def areCanonicalMembers : List (String × Json) → Bool
  | [] => true
  | (_, v) :: ms => v.isCanonical && areCanonicalMembers ms

end

mutual

/-- Whether every part of a value has a value. -/
def isValid : Json → Bool
  | .array items => areValid items
  | .object members => areValidMembers members
  | .invalid => false
  | _ => true

def areValid : List Json → Bool
  | [] => true
  | v :: vs => v.isValid && areValid vs

def areValidMembers : List (String × Json) → Bool
  | [] => true
  | (_, v) :: ms => v.isValid && areValidMembers ms

end

end Json

end Bazaar
