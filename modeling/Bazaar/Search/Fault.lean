import Bazaar.Search.Operand

/-!
What can be wrong with schemas, descriptions, conditions and queries, and with their wire form.
-/

namespace Bazaar.Search

/-- Why an operand does not fit a kind of test. -/
inductive Misfit where
  /-- A place is not tested for equality. -/
  | place
  /-- The type has no order. -/
  | unordered (type : ValueType)
  | boundTypes (low high : ValueType)
  /-- The type has no ranges. -/
  | unorderedRange (type : ValueType)
  | mixedSet
  | shape (operand : Operand)
deriving DecidableEq

def Misfit.message : Misfit → String
  | .place => "expected one of bool, int, double, string, got location"
  | .unordered type => "expected one of int, double, string, got " ++ type.name
  | .boundTypes low high =>
    "range bounds have different types: " ++ low.name ++ " and " ++ high.name
  | .unorderedRange type => "expected a range of int, double or string, got " ++ type.name
  | .mixedSet => "set members have different types"
  | .shape operand => "operand " ++ operand.render ++ " has the wrong shape for this kind"

/-- How values fail to conform to a schema. -/
inductive Inconsistency where
  | missing (key : String)
  | foreign (key schema : String)
  | wrongType (key : String) (found expected : ValueType)
deriving DecidableEq

def Inconsistency.message : Inconsistency → String
  | .missing key => "missing required attribute " ++ key
  | .foreign key schema => "attribute " ++ key ++ " is not in data model " ++ schema
  | .wrongType key found expected =>
    "attribute " ++ key ++ " has type " ++ found.name ++ ", expected " ++ expected.name

/-- What joins conditions to one. -/
inductive Junction where
  | all
  | any
deriving DecidableEq

def Junction.name : Junction → String
  | .all => "And"
  | .any => "Or"

/-- The parts of a wire message that have to be there. -/
inductive WirePart where
  | descriptionSchema
  | entryValue
  | relationValue
  | rangeBounds
  | rangeFirst
  | rangeSecond
  | setMembers
  | circleCenter
  | expression
  | negated
  | constraint
deriving DecidableEq

def WirePart.name : WirePart → String
  | .descriptionSchema => "Instance.model"
  | .entryValue => "KeyValue.value"
  | .relationValue => "Relation.val"
  | .rangeBounds => "Range.pair"
  | .rangeFirst => "LocationPair.first"
  | .rangeSecond => "LocationPair.second"
  | .setMembers => "Set.vals"
  | .circleCenter => "Distance.center"
  | .expression => "ConstraintExpr.expression"
  | .negated => "Not.expr"
  | .constraint => "Constraint.constraint"

/-- What is wrong with a thing that is made or read. -/
inductive Fault where
  | duplicateAttribute (schema key : String)
  | inconsistent (how : Inconsistency)
  | misfit (kind : Kind) (why : Misfit)
  /-- Fewer than two conditions are joined. -/
  | tooFew (junction : Junction) (count : Nat)
  /-- A condition of a query cannot be met by the descriptions of its schema. -/
  | invalidQuery (schema : String)
  | unknownKind (symbol : String)
  | unknownRelation (code : Int32)
  | unknownMembership (code : Int32)
  | unknownType (code : Int32)
  | missingPart (part : WirePart)
  /-- The bytes are no message. -/
  | malformed
deriving DecidableEq

def Fault.message : Fault → String
  | .duplicateAttribute schema key =>
    "data model " ++ schema ++ ": duplicated attribute name " ++ key
  | .inconsistent how => "attribute inconsistency: " ++ how.message
  | .misfit kind why => "invalid operand for constraint " ++ kind.symbol ++ ": " ++ why.message
  | .tooFew junction count =>
    "invalid constraint expression: " ++ junction.name ++
      " needs at least 2 subexpressions, got " ++ toString count
  | .invalidQuery schema => "query is not valid for data model " ++ schema
  | .unknownKind symbol => "unknown constraint kind: " ++ symbol
  | .unknownRelation code =>
    "unknown constraint kind: relation operator " ++ toString code.toInt
  | .unknownMembership code => "unknown constraint kind: set operator " ++ toString code.toInt
  | .unknownType code => "unknown attribute type on the wire: " ++ toString code.toInt
  | .missingPart part => "missing wire field: " ++ part.name
  | .malformed => "malformed message"

end Bazaar.Search
