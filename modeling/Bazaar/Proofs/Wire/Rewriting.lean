import Bazaar.Proofs.Wire.Description

/-!
What comes back from a message is written just as it was before: a zero that has lost its sign is
left out as well. So the bytes of conditions, queries and descriptions are a normal form. Main
statements: `Condition.encode_carried`, `Query.encode_carried` and `Description.encode_carried`.
-/

namespace Bazaar

namespace Wire

open Search (Place Value)

/-! ### Fields of what comes back -/

@[simp] theorem doubleField_unsigned (number : Nat) (d : Double) :
    doubleField number d.unsigned = doubleField number d := by
  unfold Double.unsigned
  split
  · rename_i h
    rw [doubleField, doubleField, if_pos h]
    rfl
  · rfl

@[simp] theorem placeFields_carried (p : Place) : placeFields p.carried = placeFields p := by
  simp [placeFields, Place.carried]

@[simp] theorem valueFields_carried (v : Value) : valueFields v.carried = valueFields v := by
  cases v <;> simp [Value.carried, valueFields]

@[simp] theorem Entry.fields_carried (e : Entry) : e.carried.fields = e.fields := by
  simp [carried, fields, Function.comp_def]

@[simp] theorem Description.fields_carried (d : Description) : d.carried.fields = d.fields := by
  simp [carried, fields, Function.comp_def]

@[simp] theorem Relation.fields_carried (r : Relation) : r.carried.fields = r.fields := by
  simp [carried, fields, Function.comp_def]

@[simp] theorem Bounds.fields_carried (b : Bounds) : b.carried.fields = b.fields := by
  cases b <;> simp [carried, fields, Function.comp_def]

@[simp] theorem Members.fields_carried (m : Members) : m.carried.fields = m.fields := by
  cases m <;> simp [carried, fields, Function.comp_def]

@[simp] theorem Membership.fields_carried (m : Membership) : m.carried.fields = m.fields := by
  simp [carried, fields, Function.comp_def]

@[simp] theorem Circle.fields_carried (c : Circle) : c.carried.fields = c.fields := by
  simp [carried, fields, Function.comp_def]

@[simp] theorem Constraint.testField_carried (t : Test) : testField t.carried = testField t := by
  cases t <;> simp [Test.carried, testField, Function.comp_def]

@[simp] theorem Constraint.fields_carried (c : Constraint) : c.carried.fields = c.fields := by
  simp [carried, fields, Function.comp_def]

namespace Condition

mutual

theorem fields_carried : (c : Condition) → c.carried.fields = c.fields
  | .unset => rfl
  | .join j cs => by rw [carried, fields, fields, listFields_carriedAll cs]
  | .not none => rfl
  | .not (some c) => by rw [carried, fields, fields, fields_carried c]
  | .leaf c => by rw [carried, fields, fields, c.fields_carried]

theorem listFields_carriedAll : (cs : List Condition) → listFields (carriedAll cs) = listFields cs
  | [] => rfl
  | c :: cs => by
    rw [carriedAll, listFields, listFields, fields_carried c, listFields_carriedAll cs]

end

end Condition

theorem Query.fields_carried (q : Query) : q.carried.fields = q.fields := by
  rw [carried, fields, fields, Condition.listFields_carriedAll]

end Wire

namespace Search

/-! ### Messages of what comes back -/

theorem boundsOf?_unsigned (low high : Value) :
    boundsOf? low.unsigned high.unsigned = (boundsOf? low high).map Wire.Bounds.carried := by
  cases low <;> cases high <;> rfl

theorem mapM_carried {α : Type} {f : Value → Option α} {g : α → α}
    (hf : ∀ v, f v.carried = (f v).map g) (vs : List Value) :
    (vs.map Value.carried).mapM f = (vs.mapM f).map (·.map g) := by
  induction vs with
  | nil => rfl
  | cons v vs ih =>
    rw [List.map_cons, List.mapM_cons, List.mapM_cons, hf, ih]
    cases f v with
    | none => rfl
    | some a => cases vs.mapM f <;> rfl

theorem membersOf?_carried (vs : List Value) :
    membersOf? (vs.map Value.carried) = (membersOf? vs).map Wire.Members.carried := by
  have htype : (vs.map Value.carried).head?.map Value.type = vs.head?.map Value.type := by
    cases vs <;> simp
  have hsame {α : Type} {f : Value → Option α} (hf : ∀ v, f v.carried = f v) :
      (vs.map Value.carried).mapM f = vs.mapM f := by
    rw [mapM_carried (g := id) (fun v => by rw [hf, Option.map_id_fun, id_eq]), List.map_id_fun,
      Option.map_id_fun, id_eq]
  unfold membersOf?
  rw [htype]
  split <;> rw [Option.map_map]
  -- of the members, only places do not come back as they were
  case h_4 =>
    rw [mapM_carried (g := Place.carried) fun v => by cases v <;> rfl, Option.map_map]
    rfl
  all_goals
    rw [hsame fun v => by cases v <;> rfl]
    rfl

theorem Kind.test?_carried (k : Kind) (o : Operand) :
    k.test? o.carried = (k.test? o).map Wire.Test.carried := by
  cases o with
  | scalar v =>
    change (k.relationCode?.map fun c => Wire.Test.relation ⟨c, some v.carried⟩) = _
    rw [test?, Option.map_map]
    rfl
  | range low high =>
    change ((boundsOf? low.unsigned high.unsigned).map fun b => Wire.Test.range (some b)) = _
    rw [boundsOf?_unsigned, test?, Option.map_map, Option.map_map]
    rfl
  | set vs =>
    change (k.membershipCode?.bind fun c => (membersOf? (vs.map Value.carried)).map fun m =>
      Wire.Test.membership ⟨c, some m⟩) = _
    rw [membersOf?_carried, test?]
    cases k.membershipCode? with
    | none => rfl
    | some c =>
      change ((membersOf? vs).map Wire.Members.carried).map _ = Option.map _ (Option.map _ _)
      rw [Option.map_map, Option.map_map]
      rfl
  | circle center km => rfl

/-- **The message of what comes back** is what came back of the message. -/
theorem Criterion.toWire_carried (c : Criterion) : c.carried.toWire = c.toWire.carried := by
  have h := c.kind.test?_carried c.operand
  rw [c.test?_eq_some_toWire] at h
  exact Option.some.inj (c.carried.test?_eq_some_toWire.symm.trans h)

namespace Condition

mutual

theorem toWire_carried : (c : Condition) → c.carried.toWire = c.toWire.carried
  | .join j cs => by
    rw [carried, toWire, toWire, Wire.Condition.carried, toWires_carriedAll cs]
  | .not c => by rw [carried, toWire, toWire, Wire.Condition.carried, toWire_carried c]
  | .leaf c => by
    rw [carried, toWire, c.criterion.toWire_carried]
    rfl

theorem toWires_carriedAll :
    (cs : List Condition) → toWires (carriedAll cs) = Wire.Condition.carriedAll (toWires cs)
  | [] => rfl
  | c :: cs => by
    rw [carriedAll, toWires, toWires, Wire.Condition.carriedAll, toWire_carried c,
      toWires_carriedAll cs]

end

end Condition

theorem Query.toWire_carried (q : Query) : q.carried.toWire = q.toWire.carried := by
  rw [toWire, carried, Condition.toWires_carriedAll]
  rfl

theorem Description.toWire_carried (d : Description) : d.carried.toWire = d.toWire.carried := by
  simp [toWire, carried, Wire.Description.carried, Wire.Entry.carried, SortedMap.map,
    Function.comp_def]

/-! ### Bytes of what comes back -/

theorem Place.encode_carried (p : Place) : p.carried.encode = p.encode := by
  rw [encode, Wire.placeFields_carried, encode]

/-- **What comes back of a condition is written as the condition is.** -/
theorem Condition.encode_carried (c : Condition) : c.carried.encode = c.encode := by
  rw [encode, toWire_carried, Wire.Condition.fields_carried, encode]

theorem Query.encode_carried (q : Query) : q.carried.encode = q.encode := by
  rw [encode, toWire_carried, Wire.Query.fields_carried, encode]

theorem Description.encode_carried (d : Description) : d.carried.encode = d.encode := by
  rw [encode, toWire_carried, Wire.Description.fields_carried, encode]

end Search

end Bazaar
