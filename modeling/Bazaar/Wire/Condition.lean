import Bazaar.Search.Fault
import Bazaar.Wire.Schema

/-!
The messages of tests, conditions and queries.
-/

namespace Bazaar.Wire

open Search (Junction Place Value)

/-! ### Tests -/

/-- A comparison, as a code, with a value. -/
structure Relation where
  code : Int32
  value : Option Value
deriving DecidableEq

namespace Relation

def empty : Relation := ⟨0, none⟩

def fields (r : Relation) : List Field :=
  codeField 1 r.code ++ (r.value.map fun v => embed 2 (valueFields v)).toList

def step (budget : Nat) (r : Relation) (f : Field) : Option Relation :=
  match f.number with
  | 1 => f.payload.code?.map fun c => { r with code := c }
  | 2 => (mergeWithin? budget valueStep r.value f.payload).map fun v => { r with value := v }
  | _ => skip? budget r

end Relation

/-- The bounds of a range. -/
inductive Bounds where
  | texts (bounds : String × String)
  | ints (bounds : Int64 × Int64)
  | doubles (bounds : Double × Double)
  | places (bounds : Option Place × Option Place)
deriving DecidableEq

namespace Bounds

def fields : Bounds → List Field
  | .texts (a, b) => [embed 1 (textField 1 a ++ textField 2 b)]
  | .ints (a, b) => [embed 2 (intField 1 a ++ intField 2 b)]
  | .doubles (a, b) => [embed 3 (doubleField 1 a ++ doubleField 2 b)]
  | .places (a, b) =>
    [embed 4 ((a.map fun p => embed 1 (placeFields p)).toList ++
      (b.map fun p => embed 2 (placeFields p)).toList)]

def textsStep : Nat → String × String → Field → Option (String × String) :=
  pairStep fun _ p => p.text?

def intsStep : Nat → Int64 × Int64 → Field → Option (Int64 × Int64) :=
  pairStep fun _ p => p.int?

def doublesStep : Nat → Double × Double → Field → Option (Double × Double) :=
  pairStep fun _ p => p.double?

def placesStep (budget : Nat) :
    Option Place × Option Place → Field → Option (Option Place × Option Place) :=
  pairStep (fun a p => (mergeWithin? budget placeStep (a.getD .origin) p).map some) budget

/-- Merges a field of bounds, which may have none yet: into bounds of the same type, and else in
their place. -/
def step (budget : Nat) (b : Option Bounds) (f : Field) : Option (Option Bounds) :=
  match f.number with
  | 1 =>
    let was := match b with
      | some (.texts p) => p
      | _ => ("", "")
    (mergeWithin? budget textsStep was f.payload).map (some ∘ .texts)
  | 2 =>
    let was := match b with
      | some (.ints p) => p
      | _ => (0, 0)
    (mergeWithin? budget intsStep was f.payload).map (some ∘ .ints)
  | 3 =>
    let was := match b with
      | some (.doubles p) => p
      | _ => (.zero, .zero)
    (mergeWithin? budget doublesStep was f.payload).map (some ∘ .doubles)
  | 4 =>
    let was := match b with
      | some (.places p) => p
      | _ => (none, none)
    (mergeWithin? budget placesStep was f.payload).map (some ∘ .places)
  | _ => skip? budget b

end Bounds

/-- The members of a set, by their type. -/
inductive Members where
  | texts (members : List String)
  | doubles (members : List Double)
  | bools (members : List Bool)
  | ints (members : List Int64)
  | places (members : List Place)
deriving DecidableEq

namespace Members

def fields : Members → List Field
  | .texts ss => [embed 1 (ss.map fun s => ⟨1, ofText s⟩)]
  | .doubles ds => [embed 2 (packedField 1 (packWords ∘ List.map Double.bits) ds)]
  | .bools bs => [embed 3 (packedField 1 (packVarints ∘ List.map fun b => if b then 1 else 0) bs)]
  | .ints is => [embed 4 (packedField 1 (packVarints ∘ List.map Int64.toUInt64) is)]
  | .places ps => [embed 5 (ps.map fun p => embed 1 (placeFields p))]

def textsStep : Nat → List String → Field → Option (List String) :=
  listStep fun p => p.text?.map ([·])

def placesStep (budget : Nat) : List Place → Field → Option (List Place) :=
  listStep (fun p => (mergeWithin? budget placeStep .origin p).map ([·])) budget

/-- Merges a field of members, which may have no type yet: into members of the same type, and else
in their place. -/
def step (budget : Nat) (m : Option Members) (f : Field) : Option (Option Members) :=
  match f.number with
  | 1 =>
    let was := match m with
      | some (.texts ss) => ss
      | _ => []
    (mergeWithin? budget textsStep was f.payload).map (some ∘ .texts)
  | 2 =>
    let was := match m with
      | some (.doubles ds) => ds
      | _ => []
    (mergeWithin? budget (listStep Payload.doubles?) was f.payload).map (some ∘ .doubles)
  | 3 =>
    let was := match m with
      | some (.bools bs) => bs
      | _ => []
    (mergeWithin? budget (listStep Payload.bools?) was f.payload).map (some ∘ .bools)
  | 4 =>
    let was := match m with
      | some (.ints is) => is
      | _ => []
    (mergeWithin? budget (listStep Payload.ints?) was f.payload).map (some ∘ .ints)
  | 5 =>
    let was := match m with
      | some (.places ps) => ps
      | _ => []
    (mergeWithin? budget placesStep was f.payload).map (some ∘ .places)
  | _ => skip? budget m

end Members

/-- A choice of values, or of all others, as a code. -/
structure Membership where
  code : Int32
  members : Option Members
deriving DecidableEq

namespace Membership

def empty : Membership := ⟨0, none⟩

def fields (m : Membership) : List Field :=
  codeField 1 m.code ++ (m.members.map fun ms => embed 2 ms.fields).toList

def step (budget : Nat) (m : Membership) (f : Field) : Option Membership :=
  match f.number with
  | 1 => f.payload.code?.map fun c => { m with code := c }
  | 2 =>
    (mergeWithin? budget Members.step m.members f.payload).map fun ms => { m with members := ms }
  | _ => skip? budget m

end Membership

/-- The places up to a number of kilometres from a center. -/
structure Circle where
  center : Option Place
  km : Double
deriving DecidableEq

namespace Circle

def empty : Circle := ⟨none, .zero⟩

def fields (c : Circle) : List Field :=
  (c.center.map fun p => embed 1 (placeFields p)).toList ++ doubleField 2 c.km

def step (budget : Nat) (c : Circle) (f : Field) : Option Circle :=
  match f.number with
  | 1 =>
    (mergeWithin? budget placeStep (c.center.getD .origin) f.payload).map fun p =>
      { c with center := some p }
  | 2 => f.payload.double?.map fun d => { c with km := d }
  | _ => skip? budget c

end Circle

/-- What the value of an attribute is tested for. -/
inductive Test where
  | membership (m : Membership)
  | range (bounds : Option Bounds)
  | relation (r : Relation)
  | circle (c : Circle)
deriving DecidableEq

/-- A test of the value of one attribute. -/
structure Constraint where
  key : String
  test : Option Test
deriving DecidableEq

namespace Constraint

def empty : Constraint := ⟨"", none⟩

def testField : Test → Field
  | .membership m => embed 2 m.fields
  | .range bounds => embed 3 ((bounds.map Bounds.fields).getD [])
  | .relation r => embed 4 r.fields
  | .circle c => embed 5 c.fields

def fields (c : Constraint) : List Field := textField 1 c.key ++ (c.test.map testField).toList

/-- Merges a field of a constraint: a test into one of the same sort, and else in the place of what
was there. -/
def step (budget : Nat) (c : Constraint) (f : Field) : Option Constraint :=
  match f.number with
  | 1 => f.payload.text?.map fun s => { c with key := s }
  | 2 =>
    let was := match c.test with
      | some (.membership m) => m
      | _ => .empty
    (mergeWithin? budget Membership.step was f.payload).map fun m =>
      { c with test := some (.membership m) }
  | 3 =>
    let was := match c.test with
      | some (.range bounds) => bounds
      | _ => none
    (mergeWithin? budget Bounds.step was f.payload).map fun b =>
      { c with test := some (.range b) }
  | 4 =>
    let was := match c.test with
      | some (.relation r) => r
      | _ => .empty
    (mergeWithin? budget Relation.step was f.payload).map fun r =>
      { c with test := some (.relation r) }
  | 5 =>
    let was := match c.test with
      | some (.circle r) => r
      | _ => .empty
    (mergeWithin? budget Circle.step was f.payload).map fun r =>
      { c with test := some (.circle r) }
  | _ => skip? budget c

end Constraint

/-! ### Conditions -/

/-- A condition, which may be nothing yet. -/
inductive Condition where
  | unset
  | join (junction : Junction) (conditions : List Condition)
  | not (condition : Option Condition)
  | leaf (constraint : Constraint)

namespace Condition

/-- The number of the field of a junction. -/
def junctionNumber : Junction → Nat
  | .any => 1
  | .all => 2

mutual

def fields : Condition → List Field
  | .unset => []
  | .join j cs => [embed (junctionNumber j) (listFields cs)]
  | .not none => [embed 3 []]
  | .not (some c) => [embed 3 [embed 1 c.fields]]
  | .leaf c => [embed 4 c.fields]

/-- The fields of a message that holds conditions. -/
def listFields : List Condition → List Field
  | [] => []
  | c :: cs => embed 1 c.fields :: listFields cs

end

/-- The conditions that a junction joins; none if the condition is no such junction. -/
def joined (j : Junction) : Condition → List Condition
  | .join k cs => if k = j then cs else []
  | _ => []

/-- The condition that is negated, if the condition is a negation. -/
def negated? : Condition → Option Condition
  | .not c => c
  | _ => none

/-- The constraint that the condition is, or an empty one. -/
def constraint : Condition → Constraint
  | .leaf c => c
  | _ => .empty

mutual

/-- Merges a field of a condition: into one of the same sort, and else in the place of what was
there. -/
def step : (budget : Nat) → Condition → Field → Option Condition
  | 0, _, _ => none
  | below + 1, c, f =>
    match f.number with
    | 1 => f.payload.block?.bind fun bytes =>
        (merge? below (junctionStep below) (c.joined .any) bytes).map (.join .any)
    | 2 => f.payload.block?.bind fun bytes =>
        (merge? below (junctionStep below) (c.joined .all) bytes).map (.join .all)
    | 3 => f.payload.block?.bind fun bytes =>
        (merge? below (negationStep below) c.negated? bytes).map .not
    | 4 => f.payload.block?.bind fun bytes =>
        (merge? below (Constraint.step below) c.constraint bytes).map .leaf
    | _ => some c

/-- Adds a condition that is joined. -/
def junctionStep : (budget : Nat) → List Condition → Field → Option (List Condition)
  | 0, _, _ => none
  | below + 1, cs, f =>
    if f.number = 1 then
      f.payload.block?.bind fun bytes =>
        (merge? below (step below) .unset bytes).map fun c => cs ++ [c]
    else some cs

/-- Merges the condition that is negated. -/
def negationStep : (budget : Nat) → Option Condition → Field → Option (Option Condition)
  | 0, _, _ => none
  | below + 1, c, f =>
    if f.number = 1 then
      f.payload.block?.bind fun bytes => (merge? below (step below) (c.getD .unset) bytes).map some
    else some c

end

end Condition

/-! ### Queries -/

/-- Conditions, and perhaps the schema they are meant for. -/
structure Query where
  conditions : List Condition
  schema : Option Schema

namespace Query

def empty : Query := ⟨[], none⟩

def fields (q : Query) : List Field :=
  Condition.listFields q.conditions ++ (q.schema.map fun s => embed 2 s.fields).toList

def step (budget : Nat) (q : Query) (f : Field) : Option Query :=
  match f.number with
  | 1 =>
    (mergeWithin? budget Condition.step .unset f.payload).map fun c =>
      { q with conditions := q.conditions ++ [c] }
  | 2 =>
    (mergeWithin? budget Schema.step (q.schema.getD .empty) f.payload).map fun s =>
      { q with schema := some s }
  | _ => skip? budget q

end Query

end Bazaar.Wire
