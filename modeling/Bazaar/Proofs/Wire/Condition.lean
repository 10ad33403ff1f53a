import Bazaar.Proofs.Wire.Schema
import Bazaar.Wire.Condition

/-!
Tests, conditions and queries are read back from their fields. Each message has its depth and what
of it comes back: the signs of zeros are lost in places, in the bounds of a range and in the radius
of a circle, and nothing else. Main statements: `Condition.reads` and `Query.reads`.
-/

namespace Bazaar.Wire

open Search (Junction Place Value)

/-! ### Relations -/

namespace Relation

def depth (r : Relation) : Nat := deepest (r.value.toList.map valueDepth)

/-- The relation as it comes back from its message. -/
def carried (r : Relation) : Relation := ⟨r.code, r.value.map Value.carried⟩

theorem reads (r : Relation) : Reads step empty r.fields r.depth r.carried := by
  have hcode : Reads step empty (codeField 1 r.code) 0 ⟨r.code, none⟩ :=
    reads_codeField (fun c => (⟨c, none⟩ : Relation)) (by decide) rfl
      (fun _ c => by simp [step, code?_ofCode]) _
  have hvalue : Reads step ⟨r.code, none⟩
      (r.value.map fun v => embed 2 (valueFields v)).toList r.depth r.carried :=
    reads_embed? (fun v => (⟨r.code, v.map Value.carried⟩ : Relation)) rfl
      (fun v => reads_embed (fun v => (⟨r.code, v⟩ : Relation)) (by decide) (fun _ => rfl)
        (reads_value v)) _
  exact hcode.before hvalue

end Relation

/-! ### Bounds -/

namespace Bounds

def depth : Bounds → Nat
  | .places (a, b) =>
    max (deepest (a.toList.map fun _ => 0)) (deepest (b.toList.map fun _ => 0)) + 1
  | _ => 1

/-- The bounds as they come back from their message. -/
def carried : Bounds → Bounds
  | .doubles (a, b) => .doubles (a.unsigned, b.unsigned)
  | .places (a, b) => .places (a.map Place.carried, b.map Place.carried)
  | b => b

theorem reads_texts (a b : String) :
    Reads textsStep ("", "") (textField 1 a ++ textField 2 b) 0 (a, b) := by
  have ha : Reads textsStep ("", "") (textField 1 a) 0 (a, "") :=
    reads_textField (fun s => (s, "")) (by decide) rfl
      (fun _ s => by simp [textsStep, pairStep, text?_ofText]) a
  have hb : Reads textsStep (a, "") (textField 2 b) 0 (a, b) :=
    reads_textField (fun s => (a, s)) (by decide) rfl
      (fun _ s => by simp [textsStep, pairStep, text?_ofText]) b
  exact ha.before hb

theorem reads_ints (a b : Int64) :
    Reads intsStep (0, 0) (intField 1 a ++ intField 2 b) 0 (a, b) := by
  have ha : Reads intsStep (0, 0) (intField 1 a) 0 (a, 0) :=
    reads_intField (fun i => (i, 0)) (by decide) rfl
      (fun _ i => by simp [intsStep, pairStep, int?_ofInt]) a
  have hb : Reads intsStep (a, 0) (intField 2 b) 0 (a, b) :=
    reads_intField (fun i => (a, i)) (by decide) rfl
      (fun _ i => by simp [intsStep, pairStep, int?_ofInt]) b
  exact ha.before hb

theorem reads_doubles (a b : Double) :
    Reads doublesStep (.zero, .zero) (doubleField 1 a ++ doubleField 2 b) 0
      (a.unsigned, b.unsigned) := by
  have ha : Reads doublesStep (.zero, .zero) (doubleField 1 a) 0 (a.unsigned, .zero) :=
    reads_doubleField (fun d => (d, Double.zero)) (by decide) rfl (fun _ _ => rfl) a
  have hb : Reads doublesStep (a.unsigned, .zero) (doubleField 2 b) 0
      (a.unsigned, b.unsigned) :=
    reads_doubleField (fun d => (a.unsigned, d)) (by decide) rfl (fun _ _ => rfl) b
  exact ha.before hb

theorem reads_places (a b : Option Place) :
    Reads placesStep (none, none)
      ((a.map fun p => embed 1 (placeFields p)).toList ++
        (b.map fun p => embed 2 (placeFields p)).toList)
      (max (deepest (a.toList.map fun _ => 0)) (deepest (b.toList.map fun _ => 0)))
      (a.map Place.carried, b.map Place.carried) := by
  have ha : Reads placesStep (none, none) (a.map fun p => embed 1 (placeFields p)).toList
      (deepest (a.toList.map fun _ => 0)) (a.map Place.carried, none) :=
    reads_place? (fun p => (p, none)) (by decide) (fun _ _ => Option.map_map _ _ _) a
  have hb : Reads placesStep (a.map Place.carried, none)
      (b.map fun p => embed 2 (placeFields p)).toList (deepest (b.toList.map fun _ => 0))
      (a.map Place.carried, b.map Place.carried) :=
    reads_place? (fun p => (a.map Place.carried, p)) (by decide)
      (fun _ _ => Option.map_map _ _ _) b
  exact ha.append hb

theorem reads (b : Bounds) : Reads step none b.fields b.depth (some b.carried) := by
  cases b with
  | texts p => exact reads_embed (some ∘ Bounds.texts) (by decide) (fun _ => rfl) (reads_texts _ _)
  | ints p => exact reads_embed (some ∘ Bounds.ints) (by decide) (fun _ => rfl) (reads_ints _ _)
  | doubles p =>
    exact reads_embed (some ∘ Bounds.doubles) (by decide) (fun _ => rfl) (reads_doubles _ _)
  | places p =>
    exact reads_embed (some ∘ Bounds.places) (by decide) (fun _ => rfl) (reads_places _ _)

end Bounds

/-! ### Members -/

namespace Members

def depth : Members → Nat
  | .places ps => deepest (ps.map fun _ => 0) + 1
  | _ => 1

/-- The members as they come back from their message: packed doubles keep their signs. -/
def carried : Members → Members
  | .places ps => .places (ps.map Place.carried)
  | m => m

theorem reads_texts (ss ts : List String) :
    Reads textsStep ts (ss.map fun s => ⟨1, ofText s⟩) 0 (ts ++ ss) := by
  induction ss generalizing ts with
  | nil => simpa using Reads.nil
  | cons s ss ih =>
    have hs : Reads textsStep ts [⟨1, ofText s⟩] 0 (ts ++ [s]) :=
      reads_scalar (by decide) nofun fun budget => by simp [textsStep, listStep, text?_ofText]
    have happend := hs.before (ih (ts ++ [s]))
    rw [List.append_assoc] at happend
    exact happend

/-- A packed list is read back if its payload is. -/
theorem reads_packed {α : Type} {pack : List α → Payload} {read : Payload → Option (List α)}
    (hp : ∀ as, pack as ≠ .group) (h : ∀ as, read (pack as) = some as) (as : List α) :
    Reads (listStep read) [] (packedField 1 pack as) 0 as :=
  reads_packedField (fun as => as) (by decide) hp rfl (fun _ as => by simp [listStep, h]) as

theorem reads_places (ps : List Place) :
    Reads placesStep [] (ps.map fun p => embed 1 (placeFields p)) (deepest (ps.map fun _ => 0))
      (ps.map Place.carried) :=
  reads_embeds (fun ps => ps) (by decide) (fun _ _ _ => Option.map_map _ _ _)
    (fun p _ => reads_place p) []

theorem reads (m : Members) : Reads step none m.fields m.depth (some m.carried) := by
  cases m with
  | texts ss =>
    exact reads_embed (some ∘ Members.texts) (by decide) (fun _ => rfl) (reads_texts ss [])
  | doubles ds =>
    exact reads_embed (some ∘ Members.doubles) (by decide) (fun _ => rfl)
      (reads_packed (fun _ => by nofun) doubles?_packWords ds)
  | bools bs =>
    exact reads_embed (some ∘ Members.bools) (by decide) (fun _ => rfl)
      (reads_packed (fun _ => by nofun) bools?_packVarints bs)
  | ints is =>
    exact reads_embed (some ∘ Members.ints) (by decide) (fun _ => rfl)
      (reads_packed (fun _ => by nofun) ints?_packVarints is)
  | places ps =>
    exact reads_embed (some ∘ Members.places) (by decide) (fun _ => rfl) (reads_places ps)

end Members

/-! ### Memberships and circles -/

namespace Membership

def depth (m : Membership) : Nat := deepest (m.members.toList.map Members.depth)

/-- The membership as it comes back from its message. -/
def carried (m : Membership) : Membership := ⟨m.code, m.members.map Members.carried⟩

theorem reads (m : Membership) : Reads step empty m.fields m.depth m.carried := by
  have hcode : Reads step empty (codeField 1 m.code) 0 ⟨m.code, none⟩ :=
    reads_codeField (fun c => (⟨c, none⟩ : Membership)) (by decide) rfl
      (fun _ c => by simp [step, code?_ofCode]) _
  have hmembers : Reads step ⟨m.code, none⟩
      (m.members.map fun ms => embed 2 ms.fields).toList m.depth m.carried :=
    reads_embed? (fun ms => (⟨m.code, ms.map Members.carried⟩ : Membership)) rfl
      (fun ms => reads_embed (fun ms => (⟨m.code, ms⟩ : Membership)) (by decide) (fun _ => rfl)
        ms.reads) _
  exact hcode.before hmembers

end Membership

namespace Circle

def depth (c : Circle) : Nat := deepest (c.center.toList.map fun _ => 0)

/-- The circle as it comes back from its message. -/
def carried (c : Circle) : Circle := ⟨c.center.map Place.carried, c.km.unsigned⟩

theorem reads (c : Circle) : Reads step empty c.fields c.depth c.carried := by
  have hcenter : Reads step empty (c.center.map fun p => embed 1 (placeFields p)).toList c.depth
      ⟨c.center.map Place.carried, .zero⟩ :=
    reads_place? (fun p => (⟨p, .zero⟩ : Circle)) (by decide) (fun _ _ => rfl) _
  have hkm : Reads step ⟨c.center.map Place.carried, .zero⟩ (doubleField 2 c.km) 0 c.carried :=
    reads_doubleField (fun d => (⟨c.center.map Place.carried, d⟩ : Circle)) (by decide) rfl
      (fun _ _ => rfl) _
  exact hcenter.after hkm

end Circle

/-! ### Constraints -/

def Test.depth : Test → Nat
  | .membership m => m.depth + 1
  | .range bounds => (bounds.map Bounds.depth).getD 0 + 1
  | .relation r => r.depth + 1
  | .circle c => c.depth + 1

/-- The test as it comes back from its message. -/
def Test.carried : Test → Test
  | .membership m => .membership m.carried
  | .range bounds => .range (bounds.map Bounds.carried)
  | .relation r => .relation r.carried
  | .circle c => .circle c.carried

namespace Constraint

def depth (c : Constraint) : Nat := (c.test.map Test.depth).getD 0

/-- The constraint as it comes back from its message. -/
def carried (c : Constraint) : Constraint := ⟨c.key, c.test.map Test.carried⟩

theorem reads_test (key : String) (t : Test) :
    Reads step ⟨key, none⟩ [testField t] t.depth ⟨key, some t.carried⟩ := by
  cases t with
  | membership m =>
    exact reads_embed (fun m => (⟨key, some (.membership m)⟩ : Constraint)) (by decide)
      (fun _ => rfl) m.reads
  | range bounds =>
    have hbounds : Reads Bounds.step none ((bounds.map Bounds.fields).getD [])
        ((bounds.map Bounds.depth).getD 0) (bounds.map Bounds.carried) := by
      cases bounds with
      | none => exact .nil
      | some b => exact b.reads
    exact reads_embed (fun b => (⟨key, some (.range b)⟩ : Constraint)) (by decide)
      (fun _ => rfl) hbounds
  | relation r =>
    exact reads_embed (fun r => (⟨key, some (.relation r)⟩ : Constraint)) (by decide)
      (fun _ => rfl) r.reads
  | circle c =>
    exact reads_embed (fun c => (⟨key, some (.circle c)⟩ : Constraint)) (by decide)
      (fun _ => rfl) c.reads

theorem reads (c : Constraint) : Reads step empty c.fields c.depth c.carried := by
  obtain ⟨key, test⟩ := c
  have hkey : Reads step empty (textField 1 key) 0 ⟨key, none⟩ :=
    reads_textField (fun s => (⟨s, none⟩ : Constraint)) (by decide) rfl
      (fun _ s => by simp [step, text?_ofText]) _
  have htest : Reads step ⟨key, none⟩ (test.map testField).toList ((test.map Test.depth).getD 0)
      ⟨key, test.map Test.carried⟩ := by
    cases test with
    | none => exact .nil
    | some t => exact reads_test key t
  exact hkey.before htest

end Constraint

/-! ### Conditions -/

namespace Condition

mutual

/-- How deep messages are nested in the message of a condition. A junction and a negation hold a
message of their own, with those of conditions in it. -/
def depth : Condition → Nat
  | .unset => 0
  | .join _ cs => listDepth cs + 1
  | .not none => 1
  | .not (some c) => c.depth + 2
  | .leaf c => c.depth + 1

def listDepth : List Condition → Nat
  | [] => 0
  | c :: cs => max (c.depth + 1) (listDepth cs)

end

mutual

/-- The condition as it comes back from its message. -/
def carried : Condition → Condition
  | .unset => .unset
  | .join j cs => .join j (carriedAll cs)
  | .not none => .not none
  | .not (some c) => .not (some c.carried)
  | .leaf c => .leaf c.carried

def carriedAll : List Condition → List Condition
  | [] => []
  | c :: cs => c.carried :: carriedAll cs

end

theorem listFields_eq_map (cs : List Condition) :
    listFields cs = cs.map fun c => embed 1 c.fields := by
  induction cs with
  | nil => rfl
  | cons c cs ih => rw [listFields, ih, List.map_cons]

theorem listDepth_eq_deepest (cs : List Condition) : listDepth cs = deepest (cs.map depth) := by
  induction cs with
  | nil => rfl
  | cons c cs ih => rw [listDepth, ih, List.map_cons, deepest_cons]

theorem carriedAll_eq_map (cs : List Condition) : carriedAll cs = cs.map carried := by
  induction cs with
  | nil => rfl
  | cons c cs ih => rw [carriedAll, ih, List.map_cons]

/-- The messages of conditions are read as a list by every step that adds each to a list. -/
theorem reads_listFields {α : Type} {s : Nat → α → Field → Option α} (g : List Condition → α)
    {cs : List Condition}
    (hstep : ∀ budget (c : Condition) ds, s budget (g ds) (embed 1 c.fields) =
      (mergeWithin? budget step .unset (embed 1 c.fields).payload).map fun d => g (ds ++ [d]))
    (h : ∀ c ∈ cs, Reads step .unset c.fields c.depth c.carried) :
    Reads s (g []) (listFields cs) (listDepth cs) (g (carriedAll cs)) := by
  rw [listFields_eq_map, listDepth_eq_deepest, carriedAll_eq_map]
  exact reads_embeds g (by decide) hstep h []

/-! The steps of conditions, junctions and negations look at the budget before the field; each is
the merge of the message within, whatever the budget. -/

theorem junctionStep_embed (budget : Nat) (c : Condition) (ds : List Condition) :
    junctionStep budget ds (embed 1 c.fields) =
      (mergeWithin? budget step .unset (embed 1 c.fields).payload).map fun d => ds ++ [d] := by
  cases budget <;> rfl

theorem negationStep_embed (budget : Nat) (c : Condition) :
    negationStep budget none (embed 1 c.fields) =
      (mergeWithin? budget step .unset (embed 1 c.fields).payload).map some := by
  cases budget <;> rfl

theorem step_embed_join (budget : Nat) (j : Junction) (fs : List Field) :
    step budget .unset (embed (junctionNumber j) fs) =
      (mergeWithin? budget junctionStep [] (embed (junctionNumber j) fs).payload).map
        (.join j) := by
  cases budget <;> cases j <;> rfl

theorem step_embed_not (budget : Nat) (fs : List Field) :
    step budget .unset (embed 3 fs) =
      (mergeWithin? budget negationStep none (embed 3 fs).payload).map .not := by
  cases budget <;> rfl

theorem step_embed_leaf (budget : Nat) (fs : List Field) :
    step budget .unset (embed 4 fs) =
      (mergeWithin? budget Constraint.step .empty (embed 4 fs).payload).map .leaf := by
  cases budget <;> rfl

mutual

theorem reads : (c : Condition) → Reads step .unset c.fields c.depth c.carried
  | .unset => .nil
  | .join j cs => by
    have hjoined : Reads junctionStep [] (listFields cs) (listDepth cs) (carriedAll cs) :=
      reads_listFields (fun ds => ds) junctionStep_embed (reads_of_mem cs)
    have hnumber : IsNumber (junctionNumber j) := by cases j <;> decide
    exact reads_embed (Condition.join j) hnumber (fun budget => step_embed_join budget j _) hjoined
  | .not none => reads_embed Condition.not (by decide) (fun budget => step_embed_not budget _) .nil
  | .not (some c) => by
    have hnegated : Reads negationStep none [embed 1 c.fields] (c.depth + 1) (some c.carried) :=
      reads_embed some (by decide) (fun budget => negationStep_embed budget c) (reads c)
    exact reads_embed Condition.not (by decide) (fun budget => step_embed_not budget _) hnegated
  | .leaf c =>
    reads_embed Condition.leaf (by decide) (fun budget => step_embed_leaf budget _) c.reads

theorem reads_of_mem : (cs : List Condition) →
    ∀ c ∈ cs, Reads step .unset c.fields c.depth c.carried
  | [] => nofun
  | c :: cs => List.forall_mem_cons.2 ⟨reads c, reads_of_mem cs⟩

end

end Condition

/-! ### Queries -/

namespace Query

def depth (q : Query) : Nat :=
  max (Condition.listDepth q.conditions) (deepest (q.schema.toList.map Schema.depth))

/-- The query as it comes back from its message. -/
def carried (q : Query) : Query := ⟨Condition.carriedAll q.conditions, q.schema⟩

theorem reads (q : Query) : Reads step empty q.fields q.depth q.carried := by
  have hconditions : Reads step empty (Condition.listFields q.conditions)
      (Condition.listDepth q.conditions) ⟨Condition.carriedAll q.conditions, none⟩ :=
    Condition.reads_listFields (fun cs => (⟨cs, none⟩ : Query)) (fun _ _ _ => rfl)
      fun c _ => c.reads
  have hschema : Reads step ⟨Condition.carriedAll q.conditions, none⟩
      (q.schema.map fun s => embed 2 s.fields).toList (deepest (q.schema.toList.map Schema.depth))
      q.carried :=
    reads_embed? (fun s => (⟨Condition.carriedAll q.conditions, s⟩ : Query)) rfl
      (fun s => reads_embed (fun s => (⟨Condition.carriedAll q.conditions, some s⟩ : Query))
        (by decide) (fun _ => rfl) s.reads) _
  exact hconditions.append hschema

end Query

end Bazaar.Wire
