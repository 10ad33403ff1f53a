import Bazaar.Search.Place
import Bazaar.Text.Quoted

/-!
The values of attributes and their types. Two values of one type are compared; values of different
types never are, and two places are equal or have no order.
-/

namespace Bazaar.Search

/-- The types of values. -/
inductive ValueType where
  | bool
  | int
  | double
  | text
  | place
deriving DecidableEq, Repr

/-- The name of a type. -/
def ValueType.name : ValueType → String
  | .bool => "bool"
  | .int => "int"
  | .double => "double"
  | .text => "string"
  | .place => "location"

/-- The value of an attribute. -/
inductive Value where
  | bool (b : Bool)
  | int (i : Int64)
  | double (d : Double)
  | text (s : String)
  | place (p : Place)
deriving DecidableEq, Inhabited

namespace Value

/-- The type of a value. -/
def type : Value → ValueType
  | .bool _ => .bool
  | .int _ => .int
  | .double _ => .double
  | .text _ => .text
  | .place _ => .place

/-- The order of two values of one type, if they have one. -/
def compare? : Value → Value → Option Ordering
  | .bool a, .bool b => some (compare a b)
  | .int a, .int b => some (compare a b)
  | .double a, .double b => a.compare? b
  | .text a, .text b => some (compare a b)
  | .place p, .place q =>
    if p.latitude.compare? q.latitude = some .eq ∧ p.longitude.compare? q.longitude = some .eq
    then some .eq else none
  | _, _ => none

/-- Whether two values are in order, and there at the same place. -/
def agrees (v w : Value) : Bool := v.compare? w == some .eq

/-- Whether a value is below another. -/
def below (v w : Value) : Bool := v.compare? w == some .lt

/-- Whether a value is above another. -/
def above (v w : Value) : Bool := v.compare? w == some .gt

/-- Whether a value is below another or agrees with it. -/
def atMost (v w : Value) : Bool := v.below w || v.agrees w

/-- Whether a value is above another or agrees with it. -/
def atLeast (v w : Value) : Bool := v.above w || v.agrees w

/-- Equality of values: of the same type, with equal contents. A NaN is equal to nothing. -/
def equal : Value → Value → Bool
  | .bool a, .bool b => a == b
  | .int a, .int b => a == b
  | .double a, .double b => a.equal b
  | .text a, .text b => a == b
  | .place p, .place q => p.equal q
  | _, _ => false

/-- Whether two lists have equal values in the same places. -/
def equalLists : List Value → List Value → Bool
  | [], [] => true
  | v :: vs, w :: ws => v.equal w && equalLists vs ws
  | _, _ => false

/-- The text of a value. Texts stand between quotes. -/
def render : Value → String
  | .bool b => if b then "true" else "false"
  | .int i => toString i.toInt
  | .double d => Double.Layout.plain.render d
  | .text s => Text.quoted s
  | .place p => p.render

end Value

end Bazaar.Search
