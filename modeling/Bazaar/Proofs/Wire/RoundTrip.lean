import Bazaar.Proofs.Wire.Meaning
import Bazaar.Wire.Bytes
import Mathlib.Data.List.Forall2

/-!
Conditions and queries that are written and read again. They come back alike if their messages are
nested no deeper than a reader follows and every junction joins two or more; what is nested deeper
is malformed, and of the rest every condition or query is refused for a junction. Main statement:
`decode_encode`.
-/

namespace Bazaar

/-! ### What is alike -/

namespace Double

/-- The same number, or no number both times. -/
def Same (d e : Double) : Prop := d.equal e ∨ d.isNaN ∧ e.isNaN

theorem same_self (d : Double) : d.Same d := by
  by_cases h : d.isNaN
  · exact .inr ⟨h, h⟩
  · left
    simp [equal, compare?, h]

theorem same_unsigned (d : Double) : d.Same d.unsigned := by
  rw [unsigned]
  split
  · rename_i h
    -- both zeros have the rank zero
    have hm : d.magnitude = 0 := by simpa [isZero] using h
    have hr : d.rank = zero.rank := by simp [rank, hm]; rfl
    have hn : d.isNaN = false := by simp [isNaN, hm]
    left
    simp [equal, compare?, hn, hr]
    rfl
  · exact same_self d

end Double

namespace Search

/-- Places with the same coordinates. -/
def Place.Alike (p q : Place) : Prop := p.latitude.Same q.latitude ∧ p.longitude.Same q.longitude

/-- Values of one type with the same contents. -/
def Value.Alike : Value → Value → Prop
  | .double d, .double e => d.Same e
  | .place p, .place q => p.Alike q
  | v, w => v = w

/-- Operands of one shape with the same values in the same places. -/
def Operand.Alike : Operand → Operand → Prop
  | .scalar v, .scalar w => v.Alike w
  | .range a b, .range c d => a.Alike c ∧ b.Alike d
  | .set vs, .set ws => List.Forall₂ Value.Alike vs ws
  | .circle p km, .circle q lm => p.Alike q ∧ km.Same lm
  | _, _ => False

mutual

/-- Conditions of one form, with tests of the same attributes, of the same kinds and with the same
values. -/
def Condition.Alike : Condition → Condition → Prop
  | .join j cs, .join k ds => j = k ∧ AllAlike cs ds
  | .not c, .not d => c.Alike d
  | .leaf c, .leaf d =>
    c.key = d.key ∧ c.criterion.kind = d.criterion.kind ∧
      c.criterion.operand.Alike d.criterion.operand
  | _, _ => False

def Condition.AllAlike : List Condition → List Condition → Prop
  | [], [] => True
  | c :: cs, d :: ds => c.Alike d ∧ AllAlike cs ds
  | _, _ => False

end

/-- Queries with the same schema, its notes included, and conditions that are alike. -/
def Query.Alike (q r : Query) : Prop :=
  Condition.AllAlike q.conditions r.conditions ∧ q.schema? = r.schema?

theorem Place.alike_carried (p : Place) : p.Alike p.carried :=
  ⟨p.latitude.same_unsigned, p.longitude.same_unsigned⟩

theorem Value.alike_carried (v : Value) : v.Alike v.carried := by
  cases v with
  | double d => exact d.same_self
  | place p => exact p.alike_carried
  | bool | int | text => rfl

theorem Value.alike_unsigned (v : Value) : v.Alike v.unsigned := by
  cases v with
  | double d => exact d.same_unsigned
  | place p => exact p.alike_carried
  | bool | int | text => rfl

theorem Operand.alike_carried (o : Operand) : o.Alike o.carried := by
  cases o with
  | scalar v => exact v.alike_carried
  | range low high => exact ⟨low.alike_unsigned, high.alike_unsigned⟩
  | set vs =>
    refine List.forall₂_map_right_iff.2 (List.forall₂_same.2 fun v _ => ?_)
    exact v.alike_carried
  | circle center km => exact ⟨center.alike_carried, km.same_unsigned⟩

mutual

theorem Condition.alike_carried : (c : Condition) → c.Alike c.carried
  | .join _ cs => ⟨rfl, allAlike_carriedAll cs⟩
  | .not c => alike_carried c
  | .leaf c => ⟨rfl, rfl, c.criterion.operand.alike_carried⟩

theorem Condition.allAlike_carriedAll : (cs : List Condition) → AllAlike cs (carriedAll cs)
  | [] => trivial
  | c :: cs => ⟨alike_carried c, allAlike_carriedAll cs⟩

end

theorem Query.alike_carried (q : Query) : q.Alike q.carried :=
  ⟨Condition.allAlike_carriedAll q.conditions, rfl⟩

/-! ### How deep messages are nested -/

/-- How deep messages are nested in the message of a test of an attribute: the members of a set are
one deeper than what else is tested against, and places in a set one deeper still. -/
def Operand.depth : Operand → Nat
  | .set vs => if vs.any (·.type == .place) then 5 else 4
  | .scalar _ | .range _ _ | .circle _ _ => 3

mutual

/-- How deep messages are nested in the message of a condition: a junction of some conditions adds
two to the deepest of them, and a negation adds two as well. -/
def Condition.depth : Condition → Nat
  | .join _ cs => depthOfAll cs + 1
  | .not c => c.depth + 2
  | .leaf c => c.criterion.operand.depth

/-- How deep messages are nested in a message that holds those of conditions. -/
def Condition.depthOfAll : List Condition → Nat
  | [] => 0
  | c :: cs => max (c.depth + 1) (depthOfAll cs)

end

/-- How deep messages are nested in the message of a schema: its attributes hold none. -/
def Schema.depth (s : Schema) : Nat := if s.attributes.isEmpty then 0 else 1

/-- How deep messages are nested in the message of a query, which holds the messages of its
conditions and of its schema. -/
def Query.depth (q : Query) : Nat :=
  max (Condition.depthOfAll q.conditions) ((q.schema?.map (·.depth + 1)).getD 0)

open Wire in
theorem deepest_map_zero {α : Type} (as : List α) :
    deepest (as.map fun _ => 0) = if as.isEmpty then 0 else 1 := by
  induction as with
  | nil => rfl
  | cons a as ih =>
    rw [List.map_cons, deepest_cons, ih]
    cases as <;> rfl

theorem depth_members (m : Wire.Members) :
    m.depth = if (valuesOf m).any (·.type == .place) then 2 else 1 := by
  cases m with
  | places ps =>
    rw [Wire.Members.depth, deepest_map_zero]
    cases ps <;> simp [valuesOf, Value.type]
  | texts | doubles | bools | ints => simp [Wire.Members.depth, valuesOf, Value.type]

/-- A place fits no test against a single value. -/
theorem Kind.type_ne_place {k : Kind} {v : Value} (h : k.misfit? (.scalar v) = none) :
    v.type ≠ .place := by
  intro hv
  cases k <;> simp [misfit?, hv] at h

/-- Places fit no range. -/
theorem Kind.low_type_ne_place {k : Kind} {low high : Value}
    (h : k.misfit? (.range low high) = none) : low.type ≠ .place := by
  obtain rfl := eq_within h
  intro hlow
  simp only [misfit?, hlow] at h
  split at h <;> cases h

theorem valueDepth_eq_zero {v : Value} (h : v.type ≠ .place) : Wire.valueDepth v = 0 := by
  cases v with
  | place p => exact absurd rfl h
  | bool | int | double | text => rfl

theorem depth_bounds {low high : Value} {b : Wire.Bounds} (h : boundsOf? low high = some b)
    (hlow : low.type ≠ .place) : b.depth = 1 := by
  cases low <;> cases high <;> simp only [boundsOf?, Option.some.injEq, reduceCtorEq] at h <;>
    subst h
  case place => exact absurd rfl hlow
  all_goals rfl

/-- The constraint of a test adds one to the depth of the test. -/
theorem Criterion.depth_toWire (c : Criterion) : c.toWire.depth + 1 = c.operand.depth := by
  have htest := c.test?_eq_some_toWire
  obtain ⟨k, o, hfits⟩ := c
  cases o with
  | scalar v =>
    obtain ⟨code, hcode, hwire⟩ := Option.map_eq_some_iff.1 htest
    have hv := valueDepth_eq_zero (Kind.type_ne_place hfits)
    rw [← hwire]
    change max (Wire.valueDepth v + 1) 0 + 1 + 1 = 3
    rw [hv]
    rfl
  | range low high =>
    obtain ⟨b, hb, hwire⟩ := Option.map_eq_some_iff.1 htest
    have hdepth := depth_bounds hb (Kind.low_type_ne_place hfits)
    rw [← hwire]
    change b.depth + 1 + 1 = 3
    rw [hdepth]
  | set vs =>
    obtain ⟨code, hcode, m, hm, hwire⟩ := Kind.exists_of_test?_set htest
    have hdepth := depth_members m
    rw [valuesOf_eq hm] at hdepth
    rw [← hwire]
    change max (m.depth + 1) 0 + 1 + 1 = if vs.any (·.type == .place) then 5 else 4
    rw [hdepth]
    split <;> rfl
  | circle center km =>
    rw [← Option.some.inj htest]
    rfl

mutual

/-- The depth of a condition is the depth of its message. -/
theorem Condition.depth_toWire : (c : Condition) → c.toWire.depth = c.depth
  | .join _ cs => by rw [toWire, Wire.Condition.depth, depth, listDepth_toWires cs]
  | .not c => by rw [toWire, Wire.Condition.depth, depth, depth_toWire c]
  | .leaf c => c.criterion.depth_toWire

theorem Condition.listDepth_toWires :
    (cs : List Condition) → Wire.Condition.listDepth (toWires cs) = depthOfAll cs
  | [] => rfl
  | c :: cs => by
    rw [toWires, Wire.Condition.listDepth, depthOfAll, depth_toWire c, listDepth_toWires cs]

end

theorem Schema.depth_toWire (s : Schema) : s.toWire.depth = s.depth := by
  rw [Wire.Schema.depth, deepest_map_zero, toWire, List.isEmpty_map, depth]

theorem Query.depth_toWire (q : Query) : q.toWire.depth = q.depth := by
  have hschema : Wire.deepest ((q.schema?.map Schema.toWire).toList.map Wire.Schema.depth) =
      (q.schema?.map (·.depth + 1)).getD 0 := by
    cases q.schema? with
    | none => rfl
    | some s =>
      change max (s.toWire.depth + 1) 0 = s.depth + 1
      rw [s.depth_toWire, Nat.max_zero]
  change max (Wire.Condition.listDepth (Condition.toWires q.conditions))
    (Wire.deepest ((q.schema?.map Schema.toWire).toList.map Wire.Schema.depth)) = _
  rw [Condition.listDepth_toWires, hschema, depth]

/-! ### Writing and reading -/

/-- How a value fares whose message was read again with `result`: its depth, whether its junctions
join two conditions or more, what of it comes back, and what is alike to it. -/
structure RoundTrip {α : Type} (result : Except Fault α) (depth : Nat) (joined : Prop)
    (carried : α) (Alike : α → Prop) : Prop where
  restored : depth ≤ maxNested → joined → result = .ok carried
  tooDeep : maxNested < depth → result = .error .malformed
  tooFew : depth ≤ maxNested → ¬ joined → IsTooFew result
  faithful : ∀ y, result = .ok y → Alike y

/-- The bytes of a message are read if they are nested no deeper than a reader follows. -/
theorem readBytes_writeFields {α β : Type} {step : Nat → α → Wire.Field → Option α}
    {empty message : α} {fs : List Wire.Field} {depth : Nat}
    (h : Wire.Reads step empty fs depth message) (hs : (Wire.writeFields fs).length < 2 ^ 64)
    (meaning : α → Except Fault β) :
    readBytes step empty meaning (Wire.writeFields fs) =
      if depth ≤ maxNested then meaning message else .error .malformed := by
  rw [readBytes, h.merge?_eq hs]
  by_cases hd : depth ≤ maxNested
  · rw [if_pos hd, if_pos hd]
  · rw [if_neg hd, if_neg hd]

/-- A message that is read to its depth, and of which the meaning is known, makes a round trip. -/
theorem roundTrip_of_reads {α β : Type} {step : Nat → α → Wire.Field → Option α}
    {empty message : α} {meaning : α → Except Fault β} {fs : List Wire.Field} {depth : Nat}
    {joined : Prop} {carried : β} {Alike : β → Prop} (h : Wire.Reads step empty fs depth message)
    (hs : (Wire.writeFields fs).length < 2 ^ 64) (hok : joined → meaning message = .ok carried)
    (hfew : ¬ joined → IsTooFew (meaning message)) (halike : Alike carried) :
    RoundTrip (readBytes step empty meaning (Wire.writeFields fs)) depth joined carried Alike := by
  rw [readBytes_writeFields h hs]
  constructor
  case restored =>
    intro hd hj
    rw [if_pos hd, hok hj]
  case tooDeep =>
    intro hd
    rw [if_neg (by omega)]
  case tooFew =>
    intro hd hj
    rw [if_pos hd]
    exact hfew hj
  case faithful =>
    intro y hy
    split at hy
    · by_cases hj : joined
      · rw [hok hj] at hy
        cases hy
        exact halike
      · obtain ⟨j, n, hn, herror⟩ := hfew hj
        rw [herror] at hy
        cases hy
    · cases hy

/-- **Conditions and queries survive their messages**, as far as a reader follows these, unless a
junction of them joins fewer than two; and nothing is ever read that is not alike. A message has
fewer than 2⁶⁴ bytes, as everything in a memory with addresses of 64 bits has. -/
theorem decode_encode :
    (∀ c : Condition, c.encode.length < 2 ^ 64 →
      RoundTrip (Condition.decode c.encode) c.depth c.IsJoined c.carried c.Alike) ∧
    ∀ q : Query, q.encode.length < 2 ^ 64 →
      RoundTrip (Query.decode q.encode) q.depth (Condition.AreJoined q.conditions) q.carried
        q.Alike := by
  constructor
  · intro c hs
    rw [← c.depth_toWire]
    exact roundTrip_of_reads c.toWire.reads hs c.ofWire_carried c.isTooFew_ofWire_carried
      c.alike_carried
  · intro q hs
    rw [← q.depth_toWire]
    exact roundTrip_of_reads q.toWire.reads hs q.ofWire_carried q.isTooFew_ofWire_carried
      q.alike_carried

/-- Negations of a test that no value passes, as many as a reader follows. -/
def negations : Condition := Nat.repeat .not 48 (.leaf ⟨"tags", ⟨.member, .set [], rfl⟩⟩)

/-- The negations come back, as the last that a reader follows; a query of them is malformed; and a
junction of nothing else is refused. -/
theorem decode_encode_negations :
    (negations.encode.length < 2 ^ 64 ∧ negations.depth ≤ maxNested ∧ negations.IsJoined ∧
      Condition.decode negations.encode = .ok negations.carried) ∧
    (∃ q : Query, q.conditions = [negations] ∧ q.encode.length < 2 ^ 64 ∧ maxNested < q.depth ∧
      Query.decode q.encode = .error .malformed) ∧
    ∃ c : Condition, c = .join .all [.not (.join .any [])] ∧ c.encode.length < 2 ^ 64 ∧
      c.depth ≤ maxNested ∧ ¬ c.IsJoined ∧
      ∃ j n, n < 2 ∧ Condition.decode c.encode = .error (.tooFew j n) := by
  refine ⟨?_, ⟨⟨[negations], none, nofun⟩, rfl, ?_⟩, ⟨_, rfl, ?_⟩⟩
  · have hs : negations.encode.length < 2 ^ 64 := by decide +kernel
    have hd : negations.depth ≤ maxNested := by decide
    have hj : negations.IsJoined := (Condition.fault?_eq_none_iff negations).1 rfl
    exact ⟨hs, hd, hj, (decode_encode.1 negations hs).restored hd hj⟩
  · have hs : (⟨[negations], none, nofun⟩ : Query).encode.length < 2 ^ 64 := by decide +kernel
    have hd : maxNested < (⟨[negations], none, nofun⟩ : Query).depth := by decide
    exact ⟨hs, hd, (decode_encode.2 _ hs).tooDeep hd⟩
  · have hs : (Condition.join .all [.not (.join .any [])]).encode.length < 2 ^ 64 := by
      decide +kernel
    have hd : (Condition.join .all [.not (.join .any [])]).depth ≤ maxNested := by decide
    have hj : ¬ (Condition.join .all [.not (.join .any [])]).IsJoined := fun h => by
      simp [Condition.IsJoined] at h
    exact ⟨hs, hd, hj, (decode_encode.1 _ hs).tooFew hd hj⟩

end Search

end Bazaar
