import Bazaar.Search.Condition

/-!
Queries: conditions that all have to be met, which may be meant for the descriptions of a schema.
-/

namespace Bazaar.Search

/-- Conditions, valid for the schema they are meant for, if there is one. -/
structure Query where
  conditions : List Condition
  schema? : Option Schema
  valid : ∀ s ∈ schema?, Condition.areValid s conditions

namespace Query

/-- The query of conditions that are valid for its schema. -/
def make (conditions : List Condition) (schema? : Option Schema) : Except Fault Query :=
  match schema? with
  | none => .ok ⟨conditions, none, by simp⟩
  | some s =>
    if h : Condition.areValid s conditions then
      .ok ⟨conditions, some s, by simpa using h⟩
    else .error (.invalidQuery s.name)

/-- A query is made of its own conditions and schema. -/
theorem make_eq_ok (q : Query) : make q.conditions q.schema? = .ok q := by
  obtain ⟨cs, s?, hvalid⟩ := q
  cases s? with
  | none => rfl
  | some s => exact dif_pos (hvalid s rfl)

/-- A query is made of given conditions for a given schema just if it has them. -/
theorem make_eq_ok_iff {cs : List Condition} {s? : Option Schema} {q : Query} :
    make cs s? = .ok q ↔ q.conditions = cs ∧ q.schema? = s? := by
  constructor
  · intro h
    unfold make at h
    split at h
    · cases h
      exact ⟨rfl, rfl⟩
    · split at h
      · cases h
        exact ⟨rfl, rfl⟩
      · cases h
  · rintro ⟨rfl, rfl⟩
    exact q.make_eq_ok

/-- Whether a description meets every condition. -/
def holds [Trigonometry] (q : Query) (d : Description) : Bool := Condition.allHold d q.conditions

/-- Whether every condition is valid for a schema. -/
def isValid (q : Query) (s : Schema) : Bool := Condition.areValid s q.conditions

/-- Equality of queries: of their conditions and of their schemas. -/
def equal (q r : Query) : Bool :=
  Condition.equalLists q.conditions r.conditions &&
    match q.schema?, r.schema? with
    | none, none => true
    | some s, some t => s.equal t
    | _, _ => false

/-- The text of a query. -/
def render (q : Query) : String :=
  "Query(constraints=[" ++ ",".intercalate (Condition.renderAll q.conditions) ++ "],model=" ++
    (match q.schema? with | some s => s.render | none => "None") ++ ")"

end Query

end Bazaar.Search
