import Bazaar.Search.Query
import Bazaar.Wire.Condition

/-!
What messages mean. Every schema, description, condition and query has a message, and every message
means one of these or is at fault: a message says no more than what could also have been made
directly, so each meaning is made in the same way. Main statement: every kind of test has a wire
form with every operand that fits it (`Kind.test?_isSome`).
-/

namespace Bazaar.Search

/-- What a message has to have. -/
def present {α : Type} (part : WirePart) : Option α → Except Fault α
  | some a => .ok a
  | none => .error (.missingPart part)

/-! ### Codes -/

/-- The code of a type. -/
def ValueType.code : ValueType → Int32
  | .double => 0
  | .int => 1
  | .bool => 2
  | .text => 3
  | .place => 4

def ValueType.ofCode? (c : Int32) : Option ValueType :=
  [.double, .int, .bool, .text, .place].find? (·.code == c)

/-- The code of a comparison with a single value. -/
def Kind.relationCode? : Kind → Option Int32
  | .equal => some 0
  | .less => some 1
  | .atMost => some 2
  | .greater => some 3
  | .atLeast => some 4
  | .notEqual => some 5
  | _ => none

/-- The code of a choice among values. -/
def Kind.membershipCode? : Kind → Option Int32
  | .member => some 0
  | .notMember => some 1
  | _ => none

def Kind.ofRelationCode? (c : Int32) : Option Kind := all.find? (·.relationCode? == some c)

def Kind.ofMembershipCode? (c : Int32) : Option Kind := all.find? (·.membershipCode? == some c)

/-! ### Schemas and descriptions -/

def Attribute.toWire (a : Attribute) : Wire.Attribute := ⟨a.name, a.type.code, a.isRequired, a.note⟩

def Attribute.ofWire (w : Wire.Attribute) : Except Fault Attribute :=
  match ValueType.ofCode? w.type with
  | some t => .ok ⟨w.name, t, w.isRequired, w.note⟩
  | none => .error (.unknownType w.type)

def Schema.toWire (s : Schema) : Wire.Schema := ⟨s.name, s.attributes.map Attribute.toWire, s.note⟩

def Schema.ofWire (w : Wire.Schema) : Except Fault Schema := do
  let s ← ofAttributes w.name (← w.attributes.mapM Attribute.ofWire)
  .ok (s.withNote w.note)

def Description.toWire (d : Description) : Wire.Description :=
  ⟨some d.schema.toWire, d.values.entries.map fun e => ⟨e.1, some e.2⟩⟩

def Description.ofWire (w : Wire.Description) : Except Fault Description := do
  let s ← present .descriptionSchema w.schema
  let es ← w.entries.mapM fun e => do Except.ok (e.key, ← present .entryValue e.value)
  ofValues? (.ofList es) (some (← Schema.ofWire s))

/-! ### Ranges and sets -/

/-- The bounds of a range between two values of one type. -/
def boundsOf? : Value → Value → Option Wire.Bounds
  | .text a, .text b => some (.texts (a, b))
  | .int a, .int b => some (.ints (a, b))
  | .double a, .double b => some (.doubles (a, b))
  | .place a, .place b => some (.places (some a, some b))
  | _, _ => none

/-- The range between bounds. -/
def rangeOf : Wire.Bounds → Except Fault Operand
  | .texts (a, b) => .ok (.range (.text a) (.text b))
  | .ints (a, b) => .ok (.range (.int a) (.int b))
  | .doubles (a, b) => .ok (.range (.double a) (.double b))
  | .places (a, b) => do
    let low ← present .rangeFirst a
    let high ← present .rangeSecond b
    .ok (.range (.place low) (.place high))

namespace Value

def text? : Value → Option String
  | .text s => some s
  | _ => none

def double? : Value → Option Double
  | .double d => some d
  | _ => none

def bool? : Value → Option Bool
  | .bool b => some b
  | _ => none

def int? : Value → Option Int64
  | .int i => some i
  | _ => none

def place? : Value → Option Place
  | .place p => some p
  | _ => none

end Value

/-- The members of a set of values of one type. A set with no values counts as one of texts. -/
def membersOf? (vs : List Value) : Option Wire.Members :=
  match vs.head?.map Value.type with
  | some .double => (vs.mapM Value.double?).map .doubles
  | some .bool => (vs.mapM Value.bool?).map .bools
  | some .int => (vs.mapM Value.int?).map .ints
  | some .place => (vs.mapM Value.place?).map .places
  | some .text | none => (vs.mapM Value.text?).map .texts

/-- The values of members. -/
def valuesOf : Wire.Members → List Value
  | .texts ss => ss.map .text
  | .doubles ds => ds.map .double
  | .bools bs => bs.map .bool
  | .ints is => is.map .int
  | .places ps => ps.map .place

/-! ### Criteria -/

/-- The wire form of a kind and an operand that fits it. -/
def Kind.test? (k : Kind) : Operand → Option Wire.Test
  | .scalar v => k.relationCode?.map fun c => .relation ⟨c, some v⟩
  | .range low high => (boundsOf? low high).map fun b => .range (some b)
  | .set vs =>
    k.membershipCode?.bind fun c => (membersOf? vs).map fun m => .membership ⟨c, some m⟩
  | .circle center km => some (.circle ⟨some center, km⟩)

theorem mapM_isSome {α β : Type} {f : α → Option β} {as : List α} (h : ∀ a ∈ as, (f a).isSome) :
    (as.mapM f).isSome := by
  induction as with
  | nil => rfl
  | cons a as ih =>
    obtain ⟨b, hb⟩ := Option.isSome_iff_exists.1 (h a List.mem_cons_self)
    obtain ⟨bs, hbs⟩ := Option.isSome_iff_exists.1 (ih fun a ha => h a (List.mem_cons_of_mem _ ha))
    simp [hb, hbs]

theorem membersOf?_isSome {vs : List Value} (h : areUniform vs) : (membersOf? vs).isSome := by
  have all {α : Type} {t : ValueType} {f : Value → Option α}
      (ht : vs.head?.map Value.type = some t) (hf : ∀ v : Value, v.type = t → (f v).isSome) :
      (vs.mapM f).isSome :=
    mapM_isSome fun v hv => hf v (type_eq_of_areUniform h ht v hv)
  unfold membersOf?
  split <;> rw [Option.isSome_map]
  · rename_i ht
    exact all ht fun v hv => by cases v <;> simp_all [Value.type, Value.double?]
  · rename_i ht
    exact all ht fun v hv => by cases v <;> simp_all [Value.type, Value.bool?]
  · rename_i ht
    exact all ht fun v hv => by cases v <;> simp_all [Value.type, Value.int?]
  · rename_i ht
    exact all ht fun v hv => by cases v <;> simp_all [Value.type, Value.place?]
  · rename_i ht
    exact all ht fun v hv => by cases v <;> simp_all [Value.type, Value.text?]
  · rename_i ht
    cases vs with
    | nil => rfl
    | cons v vs => simp at ht

theorem Kind.test?_isSome {k : Kind} {o : Operand} (h : k.misfit? o = none) :
    (k.test? o).isSome := by
  cases o with
  | scalar v => cases k <;> simp_all [misfit?, test?, relationCode?]
  | range low high =>
    cases k <;> simp_all [misfit?, test?]
    cases low <;> cases high <;> simp_all [Value.type, boundsOf?]
  | set vs => cases k <;> simp_all [misfit?, test?, membershipCode?, membersOf?_isSome]
  | circle center km => rfl

namespace Criterion

/-- The wire form of a criterion. -/
def toWire (c : Criterion) : Wire.Test := (c.kind.test? c.operand).get (Kind.test?_isSome c.fits)

theorem test?_eq_some_toWire (c : Criterion) : c.kind.test? c.operand = some c.toWire :=
  (Option.some_get _).symm

def ofWire : Wire.Test → Except Fault Criterion
  | .relation r => do
    match Kind.ofRelationCode? r.code with
    | some k => make k (.scalar (← present .relationValue r.value))
    | none => .error (.unknownRelation r.code)
  | .range b => do make .within (← rangeOf (← present .rangeBounds b))
  | .membership m => do
    match Kind.ofMembershipCode? m.code with
    | some k => make k (.set (valuesOf (← present .setMembers m.members)))
    | none => .error (.unknownMembership m.code)
  | .circle c => do make .distance (.circle (← present .circleCenter c.center) c.km)

end Criterion

/-! ### Conditions and queries -/

namespace Condition

mutual

def toWire : Condition → Wire.Condition
  | .join j cs => .join j (toWires cs)
  | .not c => .not (some c.toWire)
  | .leaf c => .leaf ⟨c.key, some c.criterion.toWire⟩

def toWires : List Condition → List Wire.Condition
  | [] => []
  | c :: cs => c.toWire :: toWires cs

end

mutual

/-- What a condition means, in which every junction has to join two conditions or more. -/
def ofWire : Wire.Condition → Except Fault Condition
  | .unset => .error (.missingPart .expression)
  | .join j cs => do
    let cs ← ofWires cs
    if cs.length < 2 then .error (.tooFew j cs.length) else .ok (.join j cs)
  | .not none => .error (.missingPart .negated)
  | .not (some c) => do .ok (.not (← ofWire c))
  | .leaf c => do .ok (.leaf ⟨c.key, ← Criterion.ofWire (← present .constraint c.test)⟩)

def ofWires : List Wire.Condition → Except Fault (List Condition)
  | [] => .ok []
  | c :: cs => do
    let c ← ofWire c
    .ok (c :: (← ofWires cs))

end

end Condition

def Query.toWire (q : Query) : Wire.Query :=
  ⟨Condition.toWires q.conditions, q.schema?.map Schema.toWire⟩

def Query.ofWire (w : Wire.Query) : Except Fault Query := do
  let cs ← Condition.ofWires w.conditions
  let s ← w.schema.mapM Schema.ofWire
  make cs s

end Bazaar.Search
