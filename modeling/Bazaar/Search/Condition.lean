import Bazaar.Search.Criterion
import Bazaar.Search.Description

/-!
Conditions on descriptions: tests of single attributes, joined by and, or and not.
-/

namespace Bazaar.Search

/-- A test of the value of one attribute. -/
structure Constraint where
  key : String
  criterion : Criterion
deriving DecidableEq

namespace Constraint

/-- Whether a description has a value for the attribute that is of the type that is tested, if
that type is known, and passes. -/
def holds [Trigonometry] (c : Constraint) (d : Description) : Bool :=
  match d.value? c.key with
  | none => false
  | some v =>
    match c.criterion.type? with
    | none => c.criterion.holds v
    | some t => v.type == t && c.criterion.holds v

/-- Whether a schema has the attribute with the type that is tested. -/
def isValid (c : Constraint) (s : Schema) : Bool := (s.attribute? c.key).any c.criterion.suits

/-- Equality of constraints: on the same attribute, with equal criteria. -/
def equal (c d : Constraint) : Bool := c.key == d.key && c.criterion.equal d.criterion

/-- The text of a constraint. -/
def render (c : Constraint) : String :=
  "Constraint(attribute_name=" ++ c.key ++ ",constraint_type=" ++ c.criterion.render ++ ")"

end Constraint

/-- A condition on a description. -/
inductive Condition where
  | join (junction : Junction) (conditions : List Condition)
  | not (condition : Condition)
  | leaf (constraint : Constraint)

namespace Condition

mutual

/-- Whether a description meets the condition. -/
def holds [Trigonometry] (d : Description) : Condition → Bool
  | .join .all cs => allHold d cs
  | .join .any cs => anyHolds d cs
  | .not c => !c.holds d
  | .leaf c => c.holds d

def allHold [Trigonometry] (d : Description) : List Condition → Bool
  | [] => true
  | c :: cs => c.holds d && allHold d cs

def anyHolds [Trigonometry] (d : Description) : List Condition → Bool
  | [] => false
  | c :: cs => c.holds d || anyHolds d cs

end

mutual

/-- Whether every test of the condition is valid for a schema. -/
def isValid (s : Schema) : Condition → Bool
  | .join _ cs => areValid s cs
  | .not c => c.isValid s
  | .leaf c => c.isValid s

def areValid (s : Schema) : List Condition → Bool
  | [] => true
  | c :: cs => c.isValid s && areValid s cs

end

mutual

/-- The first place, from the outside in and from the left, where fewer than two conditions are
joined. -/
def fault? : Condition → Option Fault
  | .join j cs => if cs.length < 2 then some (.tooFew j cs.length) else faultAmong? cs
  | .not c => c.fault?
  | .leaf _ => none

def faultAmong? : List Condition → Option Fault
  | [] => none
  | c :: cs =>
    match c.fault? with
    | some f => some f
    | none => faultAmong? cs

end

mutual

/-- Equality of conditions: of the same form, with equal constraints. -/
def equal : Condition → Condition → Bool
  | .join j cs, .join k ds => j == k && equalLists cs ds
  | .not c, .not d => c.equal d
  | .leaf c, .leaf d => c.equal d
  | _, _ => false

def equalLists : List Condition → List Condition → Bool
  | [], [] => true
  | c :: cs, d :: ds => c.equal d && equalLists cs ds
  | _, _ => false

end

mutual

/-- The text of a condition. -/
def render : Condition → String
  | .join j cs => j.name ++ "([" ++ ",".intercalate (renderAll cs) ++ "])"
  | .not c => "Not(" ++ c.render ++ ")"
  | .leaf c => c.render

def renderAll : List Condition → List String
  | [] => []
  | c :: cs => c.render :: renderAll cs

end

end Condition

end Bazaar.Search
