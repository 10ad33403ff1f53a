import Bazaar.Proofs.Except
import Bazaar.Proofs.Search.Conformance
import Bazaar.Proofs.Search.Semantics

/-!
Kinds of test that are derived from simpler ones: ranges, choices of values and inclusive bounds. A
test of such a kind is expanded into a condition on the same attribute. Main statement: expanding
the tests of a condition succeeds and changes nothing of what it says
(`Condition.expand_faithful`).
-/

namespace Bazaar.Search

/-! ### Expansion -/

/-- The tests from which a test is derived, and whether it asks for all of them or for any. A choice
of no values and a choice of places are not derived from others. -/
def Kind.expansion? : Kind → Operand → Option (Junction × List (Kind × Operand))
  | .within, .range low high => some (.all, [(.atLeast, .scalar low), (.atMost, .scalar high)])
  | .member, .set (w :: ws) =>
    if w.type = .place then none else some (.any, (w :: ws).map fun m => (.equal, .scalar m))
  | .notMember, .set (w :: ws) =>
    if w.type = .place then none else some (.all, (w :: ws).map fun m => (.notEqual, .scalar m))
  | .atMost, .scalar w => some (.any, [(.less, .scalar w), (.equal, .scalar w)])
  | .atLeast, .scalar w => some (.any, [(.greater, .scalar w), (.equal, .scalar w)])
  | _, _ => none

/-- The condition that joins the tests from which a test is derived; each is made anew. -/
def Constraint.expand (l : Constraint) : Except Fault Condition :=
  match l.criterion.kind.expansion? l.criterion.operand with
  | none => .ok (.leaf l)
  | some (j, ts) => do
    let cs ← ts.mapM fun t => Criterion.make t.1 t.2
    return .join j (cs.map fun c => .leaf ⟨l.key, c⟩)

namespace Condition

mutual

/-- The condition with all its tests expanded. -/
def expand : Condition → Except Fault Condition
  | .join j cs => .join j <$> expandAll cs
  | .not c => .not <$> c.expand
  | .leaf l => l.expand

def expandAll : List Condition → Except Fault (List Condition)
  | [] => .ok []
  | c :: cs => do
    let e ← c.expand
    let es ← expandAll cs
    return e :: es

end

end Condition

/-! ### One test -/

/-- **A test is derived from others**: from at least one, each of which is made of an operand that
fits and tests values of the same type, and it passes as they say together. -/
structure Kind.Derives [Trigonometry] (k : Kind) (o : Operand) (j : Junction)
    (ts : List (Kind × Operand)) : Prop where
  nonempty : ts ≠ []
  fits : ∀ t ∈ ts, t.1.misfit? t.2 = none
  type : ∀ t ∈ ts, t.2.type? = o.type?
  verdict : ∀ v, k.verdict? o v = some (j.among (fun t => t.1.verdict? t.2 v == some true) ts)

namespace Kind

variable {k : Kind} {o : Operand} {j : Junction} {ts : List (Kind × Operand)}

theorem bounds_fit {low high : Value} (h : misfit? .within (.range low high) = none) :
    misfit? .atLeast (.scalar low) = none ∧ misfit? .atMost (.scalar high) = none ∧
      high.type = low.type := by
  cases low <;> cases high <;> simp_all [misfit?, Value.type]

theorem equal_fits {w : Value} (h : misfit? .atMost (.scalar w) = none) :
    misfit? .equal (.scalar w) = none := by
  cases w <;> simp_all [misfit?, Value.type]

theorem areUniform_of_fits {w : Value} {ws : List Value}
    (h : misfit? .member (.set (w :: ws)) = none) : areUniform (w :: ws) = true := by
  simpa [misfit?] using h

/-- A choice that is not of places, as one test for each of its values. -/
theorem derives_choice [Trigonometry] {k l : Kind} {j : Junction} {w : Value} {ws : List Value}
    (hu : areUniform (w :: ws) = true) (hw : w.type ≠ .place)
    (hfits : ∀ m : Value, m.type ≠ .place → l.misfit? (.scalar m) = none)
    (hverdict : ∀ v, k.verdict? (.set (w :: ws)) v =
      some (j.among (fun m => l.verdict? (.scalar m) v == some true) (w :: ws))) :
    k.Derives (.set (w :: ws)) j ((w :: ws).map fun m => (l, .scalar m)) := by
  have htype : ∀ m ∈ w :: ws, m.type = w.type := type_eq_of_areUniform hu rfl
  exact {
    nonempty := List.cons_ne_nil _ _
    fits := List.forall_mem_map.2 fun m hm => hfits m (htype m hm ▸ hw)
    type := List.forall_mem_map.2 fun m hm => congrArg some (htype m hm)
    verdict := fun v => by rw [hverdict v, Junction.among_map]; rfl }

/-- **What a test is expanded into is what it is derived from.** -/
theorem derives_of_expansion? [Trigonometry] (hfits : k.misfit? o = none)
    (h : k.expansion? o = some (j, ts)) : k.Derives o j ts := by
  unfold expansion? at h
  split at h
  case h_1 low high =>
    -- a range: both bounds are of one type, which has an order
    cases h
    obtain ⟨hlow, hhigh, htype⟩ := bounds_fit hfits
    exact {
      nonempty := List.cons_ne_nil _ _
      fits := by simp [hlow, hhigh]
      type := by simp [Operand.type?, htype]
      verdict := fun v => by simp [verdict?, Junction.among] }
  case h_2 w ws | h_3 w ws =>
    -- a choice: whatever fits a value that is no place fits every member
    split at h
    · cases h
    · rename_i hplace
      cases h
      exact derives_choice (areUniform_of_fits hfits) hplace (fun m hm => if_neg hm) fun v => by
        simp [verdict?, Junction.among, List.not_any_eq_all_not]
  case h_4 w | h_5 w =>
    -- an inclusive bound: what has an order can be told apart as well
    cases h
    exact {
      nonempty := List.cons_ne_nil _ _
      fits := List.forall_mem_cons.2 ⟨hfits, List.forall_mem_singleton.2 (equal_fits hfits)⟩
      type := by simp [Operand.type?]
      verdict := fun v => by simp [verdict?, Junction.among, Value.atMost, Value.atLeast] }
  case h_6 => cases h

end Kind

/-- The tests from which a test is derived can all be made. -/
theorem Kind.Derives.exists_mapM_make [Trigonometry] {k : Kind} {o : Operand} {j : Junction}
    {ts : List (Kind × Operand)} (h : k.Derives o j ts) :
    ∃ cs, ts.mapM (fun t => Criterion.make t.1 t.2) = .ok cs ∧
      cs.map (fun c => (c.kind, c.operand)) = ts := by
  obtain ⟨-, hfits, -, -⟩ := h
  induction ts with
  | nil => exact ⟨[], rfl, rfl⟩
  | cons t ts ih =>
    obtain ⟨ht, hts⟩ := List.forall_mem_cons.1 hfits
    obtain ⟨cs, hcs, hmap⟩ := ih hts
    exact ⟨⟨t.1, t.2, ht⟩ :: cs,
      mapM_cons_eq_ok_iff.2 ⟨_, Criterion.make_eq_ok ht, cs, hcs, rfl⟩, congrArg (t :: ·) hmap⟩

/-- **A value is admitted by a criterion as by the criteria that it is derived from.** -/
theorem Criterion.admits_eq_among [Trigonometry] {c : Criterion} {j : Junction}
    {cs : List Criterion} (h : c.kind.Derives c.operand j (cs.map fun e => (e.kind, e.operand)))
    (v : Value) : c.admits v = j.among (·.admits v) cs := by
  have hne : cs ≠ [] := fun hnil => h.nonempty (hnil ▸ rfl)
  have htype : ∀ e ∈ cs, e.type? = c.type? := List.forall_mem_map.1 h.type
  have hholds : c.holds v = j.among (·.holds v) cs := by
    refine Option.some.inj ((c.verdict?_eq_some_holds v).symm.trans ((h.verdict v).trans ?_))
    rw [Junction.among_map]
    refine congrArg some (j.among_congr fun e _ => ?_)
    simp [e.verdict?_eq_some_holds v]
  have hadmits : ∀ e ∈ cs, e.admits v = (c.type?.all (v.type == ·) && e.holds v) := fun e he => by
    rw [admits, htype e he]
  rw [j.among_congr hadmits, admits, hholds]
  cases c.type?.all (v.type == ·) with
  | false => simp [j.among_false hne]
  | true => simp

namespace Constraint

/-- What a test is expanded into, if it is of a derived kind. -/
theorem expand_of_expansion? {l : Constraint} {j : Junction} {ts : List (Kind × Operand)}
    (h : l.criterion.kind.expansion? l.criterion.operand = some (j, ts)) :
    ∃ cs : List Criterion, l.expand = .ok (.join j (cs.map fun c => .leaf ⟨l.key, c⟩)) ∧
      cs.map (fun c => (c.kind, c.operand)) = ts := by
  -- which tests can be made is the same whatever the functions of angles are
  have _ := Trigonometry.ofPlatform
  obtain ⟨cs, hcs, hmap⟩ := (Kind.derives_of_expansion? l.criterion.fits h).exists_mapM_make
  refine ⟨cs, ?_, hmap⟩
  rw [expand, h]
  exact bind_eq_ok_iff.2 ⟨cs, hcs, rfl⟩

/-- A test says the same when it is expanded. -/
theorem exists_expand [Trigonometry] (l : Constraint) :
    ∃ e, l.expand = .ok e ∧ ∀ d, e.holds d = l.holds d := by
  cases h : l.criterion.kind.expansion? l.criterion.operand with
  | none => exact ⟨.leaf l, by rw [expand, h], Condition.holds_leaf l⟩
  | some x =>
    obtain ⟨j, ts⟩ := x
    obtain ⟨cs, hexpand, rfl⟩ := expand_of_expansion? h
    have hderives := Kind.derives_of_expansion? l.criterion.fits h
    refine ⟨_, hexpand, fun d => ?_⟩
    calc (Condition.join j (cs.map fun c => .leaf ⟨l.key, c⟩)).holds d
        = j.among (fun c => (d.value? l.key).any c.admits) cs := by
          rw [Condition.holds_join, Junction.among_map]
          exact j.among_congr fun c _ =>
            (Condition.holds_leaf ⟨l.key, c⟩ d).trans (holds_eq_any ⟨l.key, c⟩ d)
      _ = (d.value? l.key).any l.criterion.admits := by
          cases d.value? l.key with
          | none => exact j.among_false fun hnil => hderives.nonempty (hnil ▸ rfl)
          | some v => exact (Criterion.admits_eq_among hderives v).symm
      _ = l.holds d := (l.holds_eq_any d).symm

end Constraint

/-! ### Whole conditions -/

namespace Condition

mutual

theorem exists_expand [Trigonometry] :
    (c : Condition) → ∃ e, c.expand = .ok e ∧ ∀ d, e.holds d = c.holds d
  | .join j cs => by
    obtain ⟨es, hes, hholds⟩ := exists_expandAll cs
    refine ⟨.join j es, map_eq_ok_iff.2 ⟨es, hes, rfl⟩, fun d => ?_⟩
    rw [holds_join, holds_join, hholds]
  | .not c => by
    obtain ⟨e, he, hholds⟩ := exists_expand c
    refine ⟨.not e, map_eq_ok_iff.2 ⟨e, he, rfl⟩, fun d => ?_⟩
    rw [holds_not, holds_not, hholds]
  | .leaf l => by
    obtain ⟨e, he, hholds⟩ := l.exists_expand
    refine ⟨e, he, fun d => ?_⟩
    rw [holds_leaf, hholds]

theorem exists_expandAll [Trigonometry] : (cs : List Condition) → ∃ es, expandAll cs = .ok es ∧
    ∀ (d : Description) (j : Junction), j.among (·.holds d) es = j.among (·.holds d) cs
  | [] => ⟨[], rfl, fun _ _ => rfl⟩
  | c :: cs => by
    obtain ⟨e, he, hholds⟩ := exists_expand c
    obtain ⟨es, hes, hothers⟩ := exists_expandAll cs
    refine ⟨e :: es, ?_, fun d j => ?_⟩
    · exact bind_eq_ok_iff.2 ⟨e, he, bind_eq_ok_iff.2 ⟨es, hes, rfl⟩⟩
    · rw [Junction.among_cons, Junction.among_cons, hholds, hothers]

end

end Condition

/-! ### Expanding again -/

/-- A test is simple if there is nothing in it to expand. -/
def Constraint.IsSimple (l : Constraint) : Prop :=
  l.criterion.kind.expansion? l.criterion.operand = none

namespace Kind

variable {k : Kind} {o : Operand} {j : Junction} {ts : List (Kind × Operand)}

theorem ne_within_of_expansion? (h : k.expansion? o = some (j, ts)) :
    ∀ t ∈ ts, t.1 ≠ .within := by
  unfold expansion? at h
  split at h <;> try split at h
  all_goals cases h
  all_goals simp

/-- Only a range is made of tests that can be expanded themselves. -/
theorem expansion?_eq_none_of_expansion? (h : k.expansion? o = some (j, ts)) (hk : k ≠ .within) :
    ∀ t ∈ ts, t.1.expansion? t.2 = none := by
  unfold expansion? at h
  split at h <;> try split at h
  all_goals cases h
  · exact absurd rfl hk
  all_goals simp [expansion?]

end Kind

namespace Condition

mutual

/-- What is so of the tests that each test is expanded into is so of all tests of what a condition
is expanded into. -/
theorem forall_leaves_of_expand {p : Constraint → Prop} : (c : Condition) → {e : Condition} →
    c.expand = .ok e → (∀ l ∈ c.leaves, ∀ f, l.expand = .ok f → ∀ m ∈ f.leaves, p m) →
    ∀ m ∈ e.leaves, p m
  | .join j cs, e, he, h => by
    obtain ⟨es, hes, rfl⟩ := map_eq_ok_iff.1 he
    exact forall_leavesOfAll_of_expandAll cs hes h
  | .not c, e, he, h => by
    obtain ⟨f, hf, rfl⟩ := map_eq_ok_iff.1 he
    exact forall_leaves_of_expand (e := f) c hf h
  | .leaf l, e, he, h => h l (List.mem_singleton_self l) e he

theorem forall_leavesOfAll_of_expandAll {p : Constraint → Prop} : (cs : List Condition) →
    {es : List Condition} → expandAll cs = .ok es →
    (∀ l ∈ leavesOfAll cs, ∀ f, l.expand = .ok f → ∀ m ∈ f.leaves, p m) →
    ∀ m ∈ leavesOfAll es, p m
  | [], _, hes, _ => by
    cases hes
    exact List.forall_mem_nil _
  | c :: cs, _, hexpand, h => by
    obtain ⟨e, he, hrest⟩ := bind_eq_ok_iff.1 hexpand
    obtain ⟨es, hes, ⟨⟩⟩ := bind_eq_ok_iff.1 hrest
    obtain ⟨hc, hcs⟩ := List.forall_mem_append.1 h
    exact List.forall_mem_append.2
      ⟨forall_leaves_of_expand c he hc, forall_leavesOfAll_of_expandAll cs hes hcs⟩

end

mutual

theorem expand_of_isSimple :
    (c : Condition) → (∀ l ∈ c.leaves, l.IsSimple) → c.expand = .ok c
  | .join _ cs, h => map_eq_ok_iff.2 ⟨cs, expandAll_of_isSimple cs h, rfl⟩
  | .not c, h => map_eq_ok_iff.2 ⟨c, expand_of_isSimple c h, rfl⟩
  | .leaf l, h => by
    have hl : l.criterion.kind.expansion? l.criterion.operand = none :=
      h l (List.mem_singleton_self l)
    rw [expand, Constraint.expand, hl]

theorem expandAll_of_isSimple :
    (cs : List Condition) → (∀ l ∈ leavesOfAll cs, l.IsSimple) → expandAll cs = .ok cs
  | [], _ => rfl
  | c :: cs, h => by
    obtain ⟨hc, hcs⟩ := List.forall_mem_append.1 h
    exact bind_eq_ok_iff.2 ⟨c, expand_of_isSimple c hc,
      bind_eq_ok_iff.2 ⟨cs, expandAll_of_isSimple cs hcs, rfl⟩⟩

end

end Condition

namespace Constraint

/-- The tests that a test is expanded into: itself, if it is simple, or those of its expansion. -/
theorem isSimple_or_exists_of_expand {l m : Constraint} {e : Condition} (he : l.expand = .ok e)
    (hm : m ∈ e.leaves) : (l.IsSimple ∧ m = l) ∨
      ∃ j ts, l.criterion.kind.expansion? l.criterion.operand = some (j, ts) ∧
        (m.criterion.kind, m.criterion.operand) ∈ ts := by
  cases h : l.criterion.kind.expansion? l.criterion.operand with
  | none =>
    rw [expand, h] at he
    cases he
    exact .inl ⟨h, List.mem_singleton.1 hm⟩
  | some x =>
    obtain ⟨j, ts⟩ := x
    obtain ⟨cs, hexpand, rfl⟩ := expand_of_expansion? h
    cases he.symm.trans hexpand
    refine .inr ⟨j, _, rfl, ?_⟩
    obtain ⟨c, hc, hm⟩ := Condition.mem_leavesOfAll.1 hm
    obtain ⟨a, ha, rfl⟩ := List.mem_map.1 hc
    cases List.mem_singleton.1 hm
    exact List.mem_map_of_mem ha

end Constraint

namespace Condition

variable {c e f : Condition}

/-- A test that one expansion leaves is simple, unless it is a bound of what was a range. -/
theorem isSimple_or_ne_within (he : c.expand = .ok e) :
    ∀ m ∈ e.leaves, m.IsSimple ∨ m.criterion.kind ≠ .within := by
  refine forall_leaves_of_expand c he fun l _ f hf m hm => ?_
  obtain ⟨hl, rfl⟩ | ⟨j, ts, hts, hm⟩ := Constraint.isSimple_or_exists_of_expand hf hm
  · exact .inl hl
  · exact .inr (Kind.ne_within_of_expansion? hts _ hm)

/-- **Two expansions leave nothing to expand.** -/
theorem expand_expand (he : c.expand = .ok e) (hf : e.expand = .ok f) : f.expand = .ok f := by
  refine expand_of_isSimple f (forall_leaves_of_expand e hf fun l hl g hg m hm => ?_)
  obtain ⟨hsimple, rfl⟩ | ⟨j, ts, hts, hm⟩ := Constraint.isSimple_or_exists_of_expand hg hm
  · exact hsimple
  · have hnot : ¬ l.IsSimple := fun h => Option.some_ne_none _ (hts.symm.trans h)
    have hkind := (isSimple_or_ne_within he l hl).resolve_left hnot
    exact Kind.expansion?_eq_none_of_expansion? hts hkind _ hm

/-- **Derived kinds of test expand faithfully.** In any condition all tests of ranges, of choices of
values and of inclusive bounds can be expanded, every test made on the way has an operand that fits
it, and every description meets what comes out just if it meets the condition. So it is when the
bounds of what were ranges are expanded in their turn, which leaves nothing to expand. -/
theorem expand_faithful [Trigonometry] (c : Condition) :
    ∃ e f, c.expand = .ok e ∧ e.expand = .ok f ∧ f.expand = .ok f ∧
      ∀ d, e.holds d = c.holds d ∧ f.holds d = c.holds d := by
  obtain ⟨e, he, hholds⟩ := exists_expand c
  obtain ⟨f, hf, hholds'⟩ := exists_expand e
  exact ⟨e, f, he, hf, expand_expand he hf,
    fun d => ⟨hholds d, (hholds' d).trans (hholds d)⟩⟩

end Condition

end Bazaar.Search
