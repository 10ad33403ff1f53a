import Bazaar.Json

/-!
Reading typed data out of a JSON value. A record is written as an object, in which each of its
members stands at most once, in any order and among others that do not matter, or as the array of
its members in order.
-/

namespace Bazaar.Json

/-! ### Single values -/

def text? : Json → Option String
  | .text s => some s
  | _ => none

def bool? : Json → Option Bool
  | .bool b => some b
  | _ => none

/-- An integer in the range of amounts. -/
def amount? : Json → Option Amount
  | .int n => Amount.ofInt? n
  | _ => none

/-- The double nearest to an integer of at most 64 bits. -/
def nearest (n : Int) : Double :=
  .ofFloat (if n < 0 then -n.natAbs.toUInt64.toFloat else n.natAbs.toUInt64.toFloat)

/-- Any number. -/
def double? : Json → Option Double
  | .int n => some (nearest n)
  | .double d => some d
  | _ => none

/-- A value that may be `null`. -/
def nullable? {α : Type} (read : Json → Option α) : Json → Option (Option α)
  | .null => some none
  | v => (read v).map some

/-- An object as a map; of several members of one name the last counts. -/
def map? {α : Type} (read : Json → Option α) : Json → Option (SortedMap α)
  | .object members => do
    let entries ← members.mapM fun m => do some (m.1, ← read m.2)
    some (.ofList entries)
  | _ => none

/-! ### Records -/

/-- The members of a record that are given. -/
abbrev Members := List (String × Json)

/-- Finds the members of a record with the given names. -/
def members? (names : List String) : Json → Option Members
  | .object members =>
    let known := members.filter fun m => names.contains m.1
    if (known.map (·.1)).Nodup then some known else none
  | .array items => if items.length ≤ names.length then some (names.zip items) else none
  | _ => none

/-- A member that must be there. -/
def Members.required? {α : Type} (ms : Members) (name : String) (read : Json → Option α) :
    Option α := do
  read (← ms.lookup name)

/-- A member in the place of which, if it is not there, a default is taken. -/
def Members.default? {α : Type} (ms : Members) (name : String) (read : Json → Option α)
    (d : α) : Option α :=
  match ms.lookup name with
  | none => some d
  | some v => read v

/-! ### Variants -/

/-- Splits a value that is tagged by the member `name`, or by its first item, into the tag and the
rest. -/
def tagged? (name : String) : Json → Option (Json × Json)
  | .object members =>
    match members.filter (·.1 == name) with
    | [(_, tag)] => some (tag, .object (members.filter (·.1 != name)))
    | _ => none
  | .array (tag :: items) => some (tag, .array items)
  | _ => none

/-- The name of a variant without content: a string, or an object whose one member has that name
and an empty value. -/
def variant? (isEmpty : Json → Bool) : Json → Option String
  | .text s => some s
  | .object [(s, v)] => if isEmpty v then some s else none
  | _ => none

/-- Whether a value is `null`. -/
def isNull : Json → Bool
  | .null => true
  | _ => false

/-- Whether a value is `null` or an object without members. -/
def isVoid : Json → Bool
  | .null => true
  | .object [] => true
  | _ => false

end Bazaar.Json
