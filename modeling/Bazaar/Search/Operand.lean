import Bazaar.Search.Value

/-!
The kinds of test that a value can be put to, and what a value is tested against.
-/

namespace Bazaar.Search

/-- The kinds of test. -/
inductive Kind where
  | equal
  | notEqual
  | less
  | atMost
  | greater
  | atLeast
  | within
  | member
  | notMember
  | distance
deriving DecidableEq, Repr

namespace Kind

/-- Every kind, in order. -/
def all : List Kind :=
  [.equal, .notEqual, .less, .atMost, .greater, .atLeast, .within, .member, .notMember, .distance]

/-- The symbol of a kind. -/
def symbol : Kind → String
  | .equal => "=="
  | .notEqual => "!="
  | .less => "<"
  | .atMost => "<="
  | .greater => ">"
  | .atLeast => ">="
  | .within => "within"
  | .member => "in"
  | .notMember => "not_in"
  | .distance => "distance"

/-- The kind with a symbol. -/
def ofSymbol? (s : String) : Option Kind := all.find? (·.symbol == s)

theorem ofSymbol?_symbol (k : Kind) : ofSymbol? k.symbol = some k := by cases k <;> decide

/-- Whether the kind compares with a single value. -/
def isRelation : Kind → Bool
  | .equal | .notEqual | .less | .atMost | .greater | .atLeast => true
  | .within | .member | .notMember | .distance => false

end Kind

/-- What a value is tested against. -/
inductive Operand where
  /-- One value. -/
  | scalar (v : Value)
  /-- A lower and an upper bound, both included. -/
  | range (low high : Value)
  /-- A choice of values. -/
  | set (members : List Value)
  /-- The places up to a number of kilometres from a center. -/
  | circle (center : Place) (km : Double)
deriving DecidableEq

namespace Operand

/-- The type of the values that can be tested, which is unknown for an empty set. -/
def type? : Operand → Option ValueType
  | .scalar v => some v.type
  | .range low _ => some low.type
  | .set members => members.head?.map Value.type
  | .circle _ _ => some .place

/-- Equality of operands: of the same shape, with equal values in the same places. -/
def equal : Operand → Operand → Bool
  | .scalar v, .scalar w => v.equal w
  | .range a b, .range c d => a.equal c && b.equal d
  | .set vs, .set ws => Value.equalLists vs ws
  | .circle p km, .circle q lm => p.equal q && km.equal lm
  | _, _ => false

/-- The text of an operand. -/
def render : Operand → String
  | .scalar v => v.render
  | .range low high => "(" ++ low.render ++ ", " ++ high.render ++ ")"
  | .set members => "\x7b" ++ ", ".intercalate (members.map Value.render) ++ "\x7d"
  | .circle center km =>
    "(" ++ center.render ++ ", " ++ Double.Layout.plain.render km ++ ")"

end Operand

end Bazaar.Search
