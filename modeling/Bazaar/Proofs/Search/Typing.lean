import Bazaar.Proofs.Search.Conformance
import Bazaar.Search.Query

/-!
Queries that are meant for a schema, put to descriptions of an equal one. The check of a query
against its schema and that of a description against its own fit together, so that no test of the
query ever fails for the type of what it tests. Main statement: `Query.leaf_wellTyped`, together
with what it means for opposite tests.
-/

namespace Bazaar.Search

/-! ### Equal schemas -/

theorem Attribute.bare_eq_iff {a b : Attribute} :
    a.bare = b.bare ↔ a.name = b.name ∧ a.type = b.type ∧ a.isRequired = b.isRequired := by
  simp [bare]

namespace Schema

variable {s t : Schema} {values : SortedMap Value} {a b : Attribute}

theorem equal_iff :
    s.equal t = true ↔
      s.name = t.name ∧ s.attributes.map Attribute.bare = t.attributes.map Attribute.bare := by
  simp [equal]

/-- An attribute of a schema stands in every equal one, perhaps with another note. -/
theorem exists_attribute_of_map_bare_eq
    (h : s.attributes.map Attribute.bare = t.attributes.map Attribute.bare)
    (ha : a ∈ s.attributes) :
    ∃ b ∈ t.attributes, b.name = a.name ∧ b.type = a.type ∧ b.isRequired = a.isRequired := by
  have hbare : a.bare ∈ t.attributes.map Attribute.bare := h ▸ List.mem_map_of_mem ha
  obtain ⟨b, hb, heq⟩ := List.mem_map.1 hbare
  exact ⟨b, hb, Attribute.bare_eq_iff.1 heq⟩

/-- **What conforms to a schema conforms to every equal one.** -/
theorem Conforms.of_equal (hc : s.Conforms values) (h : s.equal t = true) : t.Conforms values where
  required := by
    intro b hb hr
    obtain ⟨a, ha, hname, -, hrequired⟩ :=
      exists_attribute_of_map_bare_eq (equal_iff.1 h).2.symm hb
    rw [← hname]
    exact hc.required a ha (hrequired.trans hr)
  declared := by
    intro k v hv
    obtain ⟨a, ha, hname, htype⟩ := hc.declared k v hv
    obtain ⟨b, hb, hname', htype', -⟩ := exists_attribute_of_map_bare_eq (equal_iff.1 h).2 ha
    exact ⟨b, hb, hname'.trans hname, htype'.trans htype⟩

/-- A conforming value has the type of its attribute. -/
theorem Conforms.type_eq (hc : s.Conforms values) (ha : a ∈ s.attributes) {v : Value}
    (hv : values.get? a.name = some v) : v.type = a.type := by
  obtain ⟨b, hb, hname, htype⟩ := hc.declared a.name v hv
  rw [← htype, attribute_unique hb ha hname]

end Schema

/-! ### Opposite tests -/

/-- The kind that passes just what a kind does not, of those for which there is one. -/
def Kind.opposite? : Kind → Option Kind
  | .equal => some .notEqual
  | .notEqual => some .equal
  | .member => some .notMember
  | .notMember => some .member
  | _ => none

/-- Two operands offer the same values; the members of a set may stand in any order, and more than
once. -/
def Operand.Offers : Operand → Operand → Prop
  | .set vs, .set ws => ∀ v, v ∈ vs ↔ v ∈ ws
  | o, p => o = p

theorem Kind.verdict?_opposite [Trigonometry] {k l : Kind} (h : k.opposite? = some l)
    (o : Operand) (v : Value) : l.verdict? o v = (k.verdict? o v).map (!·) := by
  cases k <;> cases h <;> cases o <;> simp [verdict?]

namespace Operand.Offers

variable {o p : Operand}

theorem cases (h : o.Offers p) :
    o = p ∨ ∃ vs ws, o = .set vs ∧ p = .set ws ∧ ∀ v, v ∈ vs ↔ v ∈ ws := by
  cases o <;> cases p <;> first | exact .inl h | exact .inr ⟨_, _, rfl, rfl, h⟩

/-- Operands that offer the same values make no difference to a test. -/
theorem verdict?_eq [Trigonometry] (h : o.Offers p) (k : Kind) (v : Value) :
    k.verdict? p v = k.verdict? o v := by
  rcases h.cases with rfl | ⟨vs, ws, rfl, rfl, hmem⟩
  · rfl
  · have hany : ws.any v.agrees = vs.any v.agrees := by
      rw [Bool.eq_iff_iff, List.any_eq_true, List.any_eq_true]
      simp only [hmem]
    cases k <;> simp [Kind.verdict?, hany]

/-- Uniform operands that offer the same values are of the same type. -/
theorem type?_eq (h : o.Offers p) (hu : ∀ vs, o = .set vs → areUniform vs = true) :
    p.type? = o.type? := by
  rcases h.cases with rfl | ⟨vs, ws, rfl, rfl, hmem⟩
  · rfl
  · cases vs with
    | nil =>
      have hnil : ws = [] := List.eq_nil_iff_forall_not_mem.2 fun v hv => by
        simpa using (hmem v).2 hv
      rw [hnil]
    | cons v vs =>
      cases ws with
      | nil => simpa using (hmem v).1 List.mem_cons_self
      | cons w ws =>
        have hw : w.type = v.type :=
          type_eq_of_areUniform (hu _ rfl) rfl w ((hmem w).2 List.mem_cons_self)
        exact congrArg some hw

end Operand.Offers

/-- A set that is tested for membership is of one type. -/
theorem Criterion.areUniform_of_set (c : Criterion) {vs : List Value} (h : c.operand = .set vs) :
    areUniform vs = true := by
  have hfits := c.fits
  rw [h] at hfits
  cases hk : c.kind <;> simp_all [Kind.misfit?]

/-- **Two criteria are opposite**: of opposite kinds, and against the same values. -/
structure Criterion.Opposes (c e : Criterion) : Prop where
  kind : c.kind.opposite? = some e.kind
  operand : c.operand.Offers e.operand

namespace Criterion.Opposes

variable {c e : Criterion}

theorem type?_eq (h : c.Opposes e) : e.type? = c.type? :=
  h.operand.type?_eq fun _ => c.areUniform_of_set

/-- **A value passes just one of two opposite criteria.** -/
theorem holds_eq [Trigonometry] (h : c.Opposes e) (v : Value) : e.holds v = !c.holds v := by
  refine Option.some.inj ?_
  calc some (e.holds v) = e.kind.verdict? e.operand v := (e.verdict?_eq_some_holds v).symm
    _ = e.kind.verdict? c.operand v := h.operand.verdict?_eq e.kind v
    _ = (c.kind.verdict? c.operand v).map (!·) := Kind.verdict?_opposite h.kind c.operand v
    _ = some (!c.holds v) := by rw [c.verdict?_eq_some_holds, Option.map_some]

end Criterion.Opposes

/-! ### Tests of a typed query -/

/-- A test of a value of the type that it is meant for is decided by the criterion alone. -/
theorem Constraint.holds_eq [Trigonometry] {l : Constraint} {d : Description} {v : Value}
    (hv : d.value? l.key = some v) (ht : l.criterion.type? = some v.type) :
    l.holds d = l.criterion.holds v := by
  simp only [holds, hv, ht, beq_self_eq_true, Bool.true_and]

namespace Query

/-- **Tests of a typed query are well typed.** In a query that was made for a schema every test, at
whatever depth, names an attribute of the schema and tests values of its type. In a description
that conforms to an equal schema a value of that attribute has this type, so that the test is
decided by its criterion; and if the attribute is required there is one, so that of two opposite
tests just one holds. -/
theorem leaf_wellTyped [Trigonometry] {m s : Schema} {cs : List Condition} {q : Query}
    {d : Description} {l : Constraint} (hq : make cs (some m) = .ok q) (hs : s.equal m = true)
    (hd : s.inconsistency? d.values = none) (hl : l ∈ Condition.leavesOfAll q.conditions) :
    ∃ a, m.attribute? l.key = some a ∧ l.criterion.type? = some a.type ∧
      (∀ v, d.value? l.key = some v → v.type = a.type ∧ l.holds d = l.criterion.holds v) ∧
      (a.isRequired = true → (∃ v, d.value? l.key = some v) ∧
        ∀ e, l.criterion.Opposes e → Constraint.holds ⟨l.key, e⟩ d = !l.holds d) := by
  obtain ⟨-, hschema⟩ := make_eq_ok_iff.1 hq
  obtain ⟨a, ha, hname, htype⟩ := (Condition.areValid_iff m _).1 (q.valid m hschema) l hl
  have hm : m.Conforms d.values := (Schema.inconsistency?_eq_none_iff.1 hd).of_equal hs
  have hvalue : ∀ v, d.value? l.key = some v → v.type = a.type := fun v hv =>
    hm.type_eq ha (hname.symm ▸ hv)
  have hholds : ∀ v, d.value? l.key = some v → l.holds d = l.criterion.holds v := fun v hv =>
    Constraint.holds_eq hv (htype.trans (congrArg some (hvalue v hv).symm))
  refine ⟨a, Schema.attribute?_eq_some_iff.2 ⟨ha, hname⟩, htype,
    fun v hv => ⟨hvalue v hv, hholds v hv⟩, fun hr => ?_⟩
  obtain ⟨v, hv⟩ : ∃ v, d.value? l.key = some v :=
    Option.isSome_iff_exists.1 (hname ▸ hm.required a ha hr)
  refine ⟨⟨v, hv⟩, fun e he => ?_⟩
  have hev : e.type? = some v.type :=
    he.type?_eq.trans (htype.trans (congrArg some (hvalue v hv).symm))
  rw [hholds v hv, ← he.holds_eq v]
  exact Constraint.holds_eq hv hev

/-- Books, which have a year and may have a genre. -/
def books : Schema :=
  ⟨"book", [⟨"genre", .text, false, ""⟩, ⟨"year", .int, true, "of publication"⟩], "", by decide⟩

/-- A book of 2005, described by a schema with other notes. -/
def novel : Description where
  values := .ofList [("year", .int 2005)]
  schema :=
    ⟨"book", [⟨"genre", .text, false, "if known"⟩, ⟨"year", .int, true, ""⟩], "books", by decide⟩
  conforms := by decide

/-- Any year but the last two of a century. -/
def outside : Constraint := ⟨"year", .notMember, .set [.int 1999, .int 2000], by decide⟩

/-- One of the same two years, told in another order and one of them twice. -/
def inside : Criterion := ⟨.member, .set [.int 2000, .int 1999, .int 2000], by decide⟩

attribute [local instance] Trigonometry.ofPlatform in
theorem leaf_wellTyped_novel :
    ∃ q, make [.not (.leaf outside)] (some books) = .ok q ∧ novel.schema.equal books = true ∧
      novel.schema.inconsistency? novel.values = none ∧
      outside ∈ Condition.leavesOfAll q.conditions ∧ outside.criterion.Opposes inside ∧
      (∀ v, novel.value? "year" = some v →
        v.type = .int ∧ outside.holds novel = outside.criterion.holds v) ∧
      Constraint.holds ⟨"year", inside⟩ novel = !outside.holds novel := by
  have hq : make [.not (.leaf outside)] (some books) =
      .ok ⟨[.not (.leaf outside)], some books, by rintro s ⟨⟩; decide⟩ := rfl
  have hs : novel.schema.equal books = true := by decide
  have hl : outside ∈ Condition.leavesOfAll [.not (.leaf outside)] := List.mem_singleton_self _
  have ho : outside.criterion.Opposes inside := by
    refine ⟨rfl, fun v => ?_⟩
    simp only [List.mem_cons, List.not_mem_nil, or_false]
    exact ⟨.inr, fun h => h.elim .inr id⟩
  obtain ⟨a, ha, -, hvalue, hrequired⟩ := leaf_wellTyped hq hs novel.conforms hl
  cases ha
  exact ⟨_, hq, hs, novel.conforms, hl, ho, hvalue, (hrequired rfl).2 inside ho⟩

end Query

end Bazaar.Search
