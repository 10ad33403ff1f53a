import Bazaar.Proofs.Except
import Bazaar.Proofs.Search.Schema
import Bazaar.Proofs.Wire.Condition
import Bazaar.Wire.Meaning

/-!
What comes back from a message means what was written into it: the schema itself, and a condition
or query with the doubles that have lost the signs of their zeros. A condition that joins fewer
than two is refused, and nothing else is. Main statements: `Schema.ofWire_toWire`,
`Condition.ofWire_carried` and `Query.ofWire_carried`.
-/

namespace Bazaar.Search

/-! ### Schemas -/

theorem ofCode?_code (t : ValueType) : ValueType.ofCode? t.code = some t := by cases t <;> decide

theorem Attribute.ofWire_toWire (a : Attribute) : ofWire a.toWire = .ok a := by
  simp [ofWire, toWire, ofCode?_code]

theorem mapM_ofWire_toWire (as : List Attribute) :
    (as.map Attribute.toWire).mapM Attribute.ofWire = .ok as := by
  rw [mapM_map_eq_pure Attribute.ofWire_toWire, List.map_id']
  rfl

namespace Schema

/-- **A schema means itself.** -/
theorem ofWire_toWire (s : Schema) : ofWire s.toWire = .ok s := by
  simp only [ofWire, toWire, mapM_ofWire_toWire]
  -- a schema is made with no note, which is put back afterwards
  change (ofAttributes s.name s.attributes >>= fun t => .ok (t.withNote s.note)) = _
  rw [ofAttributes_attributes]
  rfl

end Schema

/-! ### What comes back of criteria -/

namespace Value

/-- The value as it comes back from the bounds of a range. -/
def unsigned : Value → Value
  | .double d => .double d.unsigned
  | v => v.carried

@[simp] theorem type_carried (v : Value) : v.carried.type = v.type := by cases v <;> rfl

@[simp] theorem type_unsigned (v : Value) : v.unsigned.type = v.type := by cases v <;> rfl

end Value

theorem areUniform_map_carried {vs : List Value} (h : areUniform vs) :
    areUniform (vs.map Value.carried) := by
  cases vs with
  | nil => rfl
  | cons v vs => simpa [areUniform] using h

namespace Operand

/-- The operand as it comes back from its message. -/
def carried : Operand → Operand
  | .scalar v => .scalar v.carried
  | .range low high => .range low.unsigned high.unsigned
  | .set vs => .set (vs.map Value.carried)
  | .circle center km => .circle center.carried km.unsigned

@[simp] theorem type?_carried (o : Operand) : o.carried.type? = o.type? := by
  cases o with
  | set vs => cases vs <;> simp [carried, type?]
  | scalar | range | circle => simp [carried, type?]

end Operand

/-- What fits a kind of test still fits it when it comes back. -/
theorem Kind.misfit?_carried {k : Kind} {o : Operand} (h : k.misfit? o = none) :
    k.misfit? o.carried = none := by
  cases o with
  | set vs => cases k <;> simp_all [misfit?, Operand.carried, areUniform_map_carried]
  | scalar v => cases k <;> simp_all [misfit?, Operand.carried]
  | range low high => cases k <;> simp_all [misfit?, Operand.carried]
  | circle center km => cases k <;> simp_all [misfit?, Operand.carried]

/-- The criterion as it comes back from its message. -/
def Criterion.carried (c : Criterion) : Criterion :=
  ⟨c.kind, c.operand.carried, Kind.misfit?_carried c.fits⟩

/-- What comes back suits the same attributes. -/
theorem Criterion.suits_carried (c : Criterion) : c.carried.suits = c.suits := by
  funext a
  simp [suits, type?, carried]

/-! ### Criteria -/

theorem Kind.eq_within {k : Kind} {low high : Value} (h : k.misfit? (.range low high) = none) :
    k = .within := by
  cases k <;> first | rfl | cases h

theorem Kind.eq_distance {k : Kind} {center : Place} {km : Double}
    (h : k.misfit? (.circle center km) = none) : k = .distance := by
  cases k <;> first | rfl | cases h

theorem ofRelationCode?_eq {k : Kind} {c : Int32} (h : k.relationCode? = some c) :
    Kind.ofRelationCode? c = some k := by
  cases k <;> simp only [Kind.relationCode?, Option.some.injEq, reduceCtorEq] at h <;> subst h <;>
    decide

theorem ofMembershipCode?_eq {k : Kind} {c : Int32} (h : k.membershipCode? = some c) :
    Kind.ofMembershipCode? c = some k := by
  cases k <;> simp only [Kind.membershipCode?, Option.some.injEq, reduceCtorEq] at h <;>
    subst h <;> decide

theorem rangeOf_carried {low high : Value} {b : Wire.Bounds} (h : boundsOf? low high = some b) :
    rangeOf b.carried = .ok (.range low.unsigned high.unsigned) := by
  cases low <;> cases high <;> simp only [boundsOf?, Option.some.injEq, reduceCtorEq] at h <;>
    subst h <;> rfl

/-- What is taken out of every value, and put back, gives the values. -/
theorem valuesOf_eq_of_mapM {α : Type} {f : Value → Option α} {g : α → Value}
    (hf : ∀ v a, f v = some a → g a = v) {vs : List Value} {as : List α}
    (h : vs.mapM f = some as) : as.map g = vs := by
  induction vs generalizing as with
  | nil =>
    cases h
    rfl
  | cons v vs ih =>
    obtain ⟨a, ha, as, has, rfl⟩ := mapM_cons_eq_some_iff.1 h
    rw [List.map_cons, hf v a ha, ih has]

/-- Members are the values that they were made of. -/
theorem valuesOf_eq {vs : List Value} {m : Wire.Members} (h : membersOf? vs = some m) :
    valuesOf m = vs := by
  unfold membersOf? at h
  split at h <;> obtain ⟨as, has, rfl⟩ := Option.map_eq_some_iff.1 h
  · exact valuesOf_eq_of_mapM (fun v d hd => by cases v <;> simp_all [Value.double?]) has
  · exact valuesOf_eq_of_mapM (fun v b hb => by cases v <;> simp_all [Value.bool?]) has
  · exact valuesOf_eq_of_mapM (fun v i hi => by cases v <;> simp_all [Value.int?]) has
  · exact valuesOf_eq_of_mapM (fun v p hp => by cases v <;> simp_all [Value.place?]) has
  · exact valuesOf_eq_of_mapM (fun v s hs => by cases v <;> simp_all [Value.text?]) has
  · exact valuesOf_eq_of_mapM (fun v s hs => by cases v <;> simp_all [Value.text?]) has

theorem valuesOf_carried (m : Wire.Members) :
    valuesOf m.carried = (valuesOf m).map Value.carried := by
  cases m <;> simp [Wire.Members.carried, valuesOf, Value.carried]

/-- What a set is written as. -/
theorem Kind.exists_of_test?_set {k : Kind} {vs : List Value} {t : Wire.Test}
    (h : k.test? (.set vs) = some t) : ∃ code, k.membershipCode? = some code ∧
      ∃ m, membersOf? vs = some m ∧ .membership ⟨code, some m⟩ = t := by
  obtain ⟨code, hcode, hset⟩ := Option.bind_eq_some_iff.1 h
  exact ⟨code, hcode, Option.map_eq_some_iff.1 hset⟩

namespace Criterion

/-- **A criterion comes back**, whatever its kind and operand. -/
theorem ofWire_carried (c : Criterion) : ofWire c.toWire.carried = .ok c.carried := by
  have htest := c.test?_eq_some_toWire
  have hmake := make_eq_ok c.carried.fits
  obtain ⟨k, o, hfits⟩ := c
  cases o with
  | scalar v =>
    obtain ⟨code, hcode, hwire⟩ := Option.map_eq_some_iff.1 htest
    rw [← hwire]
    simp only [Wire.Test.carried, Wire.Relation.carried, ofWire, ofRelationCode?_eq hcode]
    exact hmake
  | range low high =>
    obtain ⟨b, hb, hwire⟩ := Option.map_eq_some_iff.1 htest
    obtain rfl := Kind.eq_within hfits
    rw [← hwire]
    change (rangeOf b.carried >>= fun o => make .within o) = _
    rw [rangeOf_carried hb]
    exact hmake
  | set vs =>
    obtain ⟨code, hcode, m, hm, hwire⟩ := Kind.exists_of_test?_set htest
    rw [← hwire]
    simp only [Wire.Test.carried, Wire.Membership.carried, ofWire, ofMembershipCode?_eq hcode]
    change make k (.set (valuesOf m.carried)) = _
    rw [valuesOf_carried, valuesOf_eq hm]
    exact hmake
  | circle center km =>
    obtain rfl := Kind.eq_distance hfits
    rw [← Option.some.inj htest]
    exact hmake

end Criterion

/-! ### Conditions -/

/-- A refusal of a junction of fewer than two. -/
def IsTooFew {α : Type} (r : Except Fault α) : Prop :=
  ∃ j n, n < 2 ∧ r = .error (.tooFew j n)

theorem IsTooFew.bind {α β : Type} {r : Except Fault α} (h : IsTooFew r)
    (f : α → Except Fault β) : IsTooFew (r >>= f) := by
  obtain ⟨j, n, hn, rfl⟩ := h
  exact ⟨j, n, hn, rfl⟩

namespace Condition

mutual

/-- Every junction joins two conditions or more. -/
def IsJoined : Condition → Prop
  | .join _ cs => 2 ≤ cs.length ∧ AreJoined cs
  | .not c => c.IsJoined
  | .leaf _ => True

def AreJoined : List Condition → Prop
  | [] => True
  | c :: cs => c.IsJoined ∧ AreJoined cs

end

mutual

/-- The condition as it comes back from its message. -/
def carried : Condition → Condition
  | .join j cs => .join j (carriedAll cs)
  | .not c => .not c.carried
  | .leaf c => .leaf ⟨c.key, c.criterion.carried⟩

def carriedAll : List Condition → List Condition
  | [] => []
  | c :: cs => c.carried :: carriedAll cs

end

theorem length_carriedAll (cs : List Condition) : (carriedAll cs).length = cs.length := by
  induction cs with
  | nil => rfl
  | cons c cs ih => rw [carriedAll, List.length_cons, List.length_cons, ih]

mutual

theorem fault?_eq_none_iff : (c : Condition) → (c.fault? = none ↔ c.IsJoined)
  | .join j cs => by
    rw [fault?, IsJoined, ← faultAmong?_eq_none_iff cs]
    split
    · simp; omega
    · simp; omega
  | .not c => by rw [fault?, IsJoined, fault?_eq_none_iff c]
  | .leaf c => by simp [fault?, IsJoined]

theorem faultAmong?_eq_none_iff : (cs : List Condition) → (faultAmong? cs = none ↔ AreJoined cs)
  | [] => by simp [faultAmong?, AreJoined]
  | c :: cs => by
    rw [faultAmong?, AreJoined, ← fault?_eq_none_iff c, ← faultAmong?_eq_none_iff cs]
    cases c.fault? <;> simp

end

mutual

/-- **A condition comes back** if each of its junctions joins two or more. -/
theorem ofWire_carried : (c : Condition) → c.IsJoined → ofWire c.toWire.carried = .ok c.carried
  | .join j cs, h => by
    obtain ⟨hlen, hcs⟩ := h
    rw [toWire, Wire.Condition.carried, ofWire, ofWires_carriedAll cs hcs]
    have hnot : ¬ (carriedAll cs).length < 2 := by
      rw [length_carriedAll]
      omega
    exact if_neg hnot
  | .not c, h => by
    rw [toWire, Wire.Condition.carried, ofWire, ofWire_carried c h]
    rfl
  | .leaf c, _ => by
    change (Criterion.ofWire c.criterion.toWire.carried >>= fun d =>
      Except.ok (leaf ⟨c.key, d⟩)) = _
    rw [c.criterion.ofWire_carried]
    rfl

theorem ofWires_carriedAll : (cs : List Condition) → AreJoined cs →
    ofWires (Wire.Condition.carriedAll (toWires cs)) = .ok (carriedAll cs)
  | [], _ => rfl
  | c :: cs, h => by
    obtain ⟨hc, hcs⟩ := h
    rw [toWires, Wire.Condition.carriedAll, ofWires, ofWire_carried c hc,
      ofWires_carriedAll cs hcs]
    rfl

end

mutual

/-- A condition of which a junction joins fewer than two is refused for such a junction. -/
theorem isTooFew_ofWire_carried :
    (c : Condition) → ¬ c.IsJoined → IsTooFew (ofWire c.toWire.carried)
  | .join j cs, h => by
    rw [toWire, Wire.Condition.carried, ofWire]
    -- the conditions are read first, so the junction itself is at fault only if none of them is
    by_cases hcs : AreJoined cs
    · have hlen : (carriedAll cs).length < 2 := by
        rw [length_carriedAll]
        exact Nat.lt_of_not_le fun hle => h ⟨hle, hcs⟩
      rw [ofWires_carriedAll cs hcs]
      exact ⟨j, _, hlen, if_pos hlen⟩
    · exact (isTooFew_ofWires_carriedAll cs hcs).bind _
  | .not c, h => (isTooFew_ofWire_carried c h).bind _
  | .leaf _, h => absurd trivial h

theorem isTooFew_ofWires_carriedAll : (cs : List Condition) → ¬ AreJoined cs →
    IsTooFew (ofWires (Wire.Condition.carriedAll (toWires cs)))
  | [], h => absurd trivial h
  | c :: cs, h => by
    rw [toWires, Wire.Condition.carriedAll, ofWires]
    by_cases hc : c.IsJoined
    · have hcs : ¬ AreJoined cs := fun hcs => h ⟨hc, hcs⟩
      rw [ofWire_carried c hc]
      exact (isTooFew_ofWires_carriedAll cs hcs).bind _
    · exact (isTooFew_ofWire_carried c hc).bind _

end

mutual

/-- What comes back of a condition is valid for the same schemas. -/
theorem isValid_carried (s : Schema) : (c : Condition) → c.carried.isValid s = c.isValid s
  | .join _ cs => areValid_carriedAll s cs
  | .not c => isValid_carried s c
  | .leaf c => by
    rw [carried, isValid, isValid, Constraint.isValid, Criterion.suits_carried, Constraint.isValid]

theorem areValid_carriedAll (s : Schema) :
    (cs : List Condition) → areValid s (carriedAll cs) = areValid s cs
  | [] => rfl
  | c :: cs => by
    rw [carriedAll, areValid, areValid, isValid_carried s c, areValid_carriedAll s cs]

end

end Condition

/-! ### Queries -/

namespace Query

/-- The query as it comes back from its message. -/
def carried (q : Query) : Query where
  conditions := Condition.carriedAll q.conditions
  schema? := q.schema?
  valid := by
    intro s hs
    rw [Condition.areValid_carriedAll]
    exact q.valid s hs

/-- **A query comes back** if each of its junctions joins two or more. -/
theorem ofWire_carried (q : Query) (h : Condition.AreJoined q.conditions) :
    ofWire q.toWire.carried = .ok q.carried := by
  have hschema : (q.schema?.map Schema.toWire).mapM Schema.ofWire = .ok q.schema? := by
    cases q.schema? with
    | none => rfl
    | some s =>
      change (Schema.ofWire s.toWire >>= fun t => .ok (some t)) = _
      rw [s.ofWire_toWire]
      rfl
  change (Condition.ofWires (Wire.Condition.carriedAll (Condition.toWires q.conditions)) >>=
    fun cs => (q.schema?.map Schema.toWire).mapM Schema.ofWire >>= fun s => make cs s) = _
  rw [Condition.ofWires_carriedAll _ h, hschema]
  exact q.carried.make_eq_ok

theorem isTooFew_ofWire_carried (q : Query) (h : ¬ Condition.AreJoined q.conditions) :
    IsTooFew (ofWire q.toWire.carried) :=
  (Condition.isTooFew_ofWires_carriedAll _ h).bind _

end Query

end Bazaar.Search
