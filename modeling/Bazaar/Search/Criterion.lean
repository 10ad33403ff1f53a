import Bazaar.Search.Schema

/-!
Criteria: tests of one value. A criterion pairs a kind of test with an operand that fits it. Main
statement: a kind of test tells for every operand that fits it whether a value passes
(`Kind.verdict?_isSome`).
-/

namespace Bazaar.Search

/-- Whether all values have the type of the first. -/
def areUniform : List Value → Bool
  | [] => true
  | v :: vs => vs.all (·.type == v.type)

theorem type_eq_of_areUniform {vs : List Value} {t : ValueType} (h : areUniform vs)
    (ht : vs.head?.map Value.type = some t) : ∀ v ∈ vs, v.type = t := by
  cases vs with
  | nil => simp
  | cons v vs =>
    have hv : v.type = t := by simpa using ht
    intro w hw
    rcases List.mem_cons.1 hw with rfl | hw
    · exact hv
    · have hw' : w.type = v.type := by simpa using List.all_eq_true.1 h w hw
      rw [hw', hv]

/-- Why an operand does not fit a kind of test, if it does not. -/
def Kind.misfit? (k : Kind) (o : Operand) : Option Misfit :=
  match k, o with
  | .equal, .scalar v | .notEqual, .scalar v => if v.type = .place then some .place else none
  | .less, .scalar v | .atMost, .scalar v | .greater, .scalar v | .atLeast, .scalar v =>
    match v.type with
    | .int | .double | .text => none
    | t => some (.unordered t)
  | .within, .range low high =>
    if low.type ≠ high.type then some (.boundTypes low.type high.type)
    else
      match low.type with
      | .int | .double | .text => none
      | t => some (.unorderedRange t)
  | .member, .set vs | .notMember, .set vs =>
    if areUniform vs then none else some .mixedSet
  | .distance, .circle _ _ => none
  | _, o => some (.shape o)

/-- Whether a value passes a kind of test with an operand of the shape that the kind asks for. -/
def Kind.verdict? [Trigonometry] (k : Kind) (o : Operand) (v : Value) : Option Bool :=
  match k, o with
  | .equal, .scalar w => some (v.agrees w)
  | .notEqual, .scalar w => some (!v.agrees w)
  | .less, .scalar w => some (v.below w)
  | .atMost, .scalar w => some (v.atMost w)
  | .greater, .scalar w => some (v.above w)
  | .atLeast, .scalar w => some (v.atLeast w)
  | .within, .range low high => some (v.atLeast low && v.atMost high)
  | .member, .set ws => some (ws.any v.agrees)
  | .notMember, .set ws => some (!ws.any v.agrees)
  | .distance, .circle center km =>
    match v with
    | .place p => some ((Value.double (center.distance p)).atMost (.double km))
    | _ => some false
  | _, _ => none

theorem Kind.verdict?_isSome [Trigonometry] {k : Kind} {o : Operand} (h : k.misfit? o = none)
    (v : Value) : (k.verdict? o v).isSome := by
  cases k <;> cases o <;> simp_all [Kind.verdict?, Kind.misfit?]
  cases v <;> rfl

/-- A test of one value. -/
structure Criterion where
  kind : Kind
  operand : Operand
  fits : kind.misfit? operand = none
deriving DecidableEq

namespace Criterion

/-- The criterion of a kind and an operand that fits it. -/
def make (kind : Kind) (operand : Operand) : Except Fault Criterion :=
  match h : kind.misfit? operand with
  | some why => .error (.misfit kind why)
  | none => .ok ⟨kind, operand, h⟩

theorem make_eq_ok {k : Kind} {o : Operand} (h : k.misfit? o = none) :
    make k o = .ok ⟨k, o, h⟩ := by
  unfold make
  split
  · rename_i why hwhy
    rw [h] at hwhy
    cases hwhy
  · rfl

theorem make_eq_ok_iff {k : Kind} {o : Operand} {c : Criterion} :
    make k o = .ok c ↔ c.kind = k ∧ c.operand = o := by
  constructor
  · intro h
    unfold make at h
    split at h
    · cases h
    · cases h
      exact ⟨rfl, rfl⟩
  · rintro ⟨rfl, rfl⟩
    exact make_eq_ok c.fits

/-- The criterion of the symbol of a kind and an operand that fits it. -/
def ofSymbol (symbol : String) (operand : Operand) : Except Fault Criterion :=
  match Kind.ofSymbol? symbol with
  | none => .error (.unknownKind symbol)
  | some kind => make kind operand

/-- The type of the values that can be tested, which is unknown for an empty set. -/
def type? (c : Criterion) : Option ValueType := c.operand.type?

/-- Whether an attribute has the type of the values that can be tested. -/
def suits (c : Criterion) (a : Attribute) : Bool := c.type? == some a.type

/-- Whether a value passes. -/
def holds [Trigonometry] (c : Criterion) (v : Value) : Bool :=
  (c.kind.verdict? c.operand v).get (Kind.verdict?_isSome c.fits v)

theorem verdict?_eq_some_holds [Trigonometry] (c : Criterion) (v : Value) :
    c.kind.verdict? c.operand v = some (c.holds v) := (Option.some_get _).symm

/-- Equality of criteria: of the same kind, with equal operands. -/
def equal (c d : Criterion) : Bool := c.kind == d.kind && c.operand.equal d.operand

/-- The text of a criterion. -/
def render (c : Criterion) : String :=
  "ConstraintType(value=" ++ c.operand.render ++ ",type=" ++ c.kind.symbol ++ ")"

end Criterion

end Bazaar.Search
