import Bazaar.Proofs.Wire.Condition

/-!
Messages that are read are nested no deeper than their budget. Each step of a reader leaves a
message within the budget that it has (`Keeps`), since a message within is read with one less; so
does the merge of any bytes, in whatever order and however often they give a field. Main
statements: `Condition.depth_le_of_merge?` and `Query.listDepth_le_of_merge?`.
-/

namespace Bazaar.Wire

open Search (Junction Place Value)

/-! ### Steps within a budget -/

theorem deepest_append (ds es : List Nat) :
    deepest (ds ++ es) = max (deepest ds) (deepest es) := by
  induction ds with
  | nil => simp
  | cons d ds ih => rw [List.cons_append, deepest_cons, deepest_cons, ih, Nat.max_assoc]

/-- A step that leaves a message within the budget if it was there before. -/
def Keeps {α : Type} (depth : α → Nat) (budget : Nat) (step : α → Field → Option α) : Prop :=
  ∀ a f b, step a f = some b → depth a ≤ budget → depth b ≤ budget

theorem eq_of_skip? {α : Type} {budget : Nat} {a b : α} (h : skip? budget a = some b) : b = a := by
  unfold skip? at h
  split at h
  · exact (Option.some.inj h).symm
  · cases h

namespace Keeps

variable {α β : Type} {depth : α → Nat} {budget : Nat}

theorem foldlM {step : α → Field → Option α} (h : Keeps depth budget step) {fs : List Field}
    {a b : α} (hf : fs.foldlM step a = some b) (ha : depth a ≤ budget) : depth b ≤ budget := by
  induction fs generalizing a with
  | nil =>
    obtain rfl := Option.some.inj hf
    exact ha
  | cons f fs ih =>
    rw [List.foldlM_cons] at hf
    obtain ⟨c, hc, hf⟩ := Option.bind_eq_some_iff.1 hf
    exact ih hf (h a f c hc ha)

theorem merge? {step : α → Field → Option α} (h : Keeps depth budget step) {limit : Nat}
    {bytes : List UInt8} {a b : α} (hm : Wire.merge? limit step a bytes = some b)
    (ha : depth a ≤ budget) : depth b ≤ budget := by
  obtain ⟨fs, -, hf⟩ := Option.bind_eq_some_iff.1 hm
  exact h.foldlM hf ha

/-- A message within is one less deep than the budget around it. -/
theorem within {step : Nat → α → Field → Option α} (h : ∀ below, Keeps depth below (step below))
    {a : α} {p : Payload} {g : α → β} {b : β}
    (hm : (mergeWithin? budget step a p).map g = some b) (ha : depth a ≤ budget - 1) :
    ∃ c, b = g c ∧ depth c < budget := by
  obtain ⟨c, hc, rfl⟩ := Option.map_eq_some_iff.1 hm
  refine ⟨c, rfl, ?_⟩
  unfold mergeWithin? at hc
  split at hc
  · rename_i below bytes
    have hle := (h below).merge? hc (by omega)
    omega
  · cases hc

/-- A message within that holds no others takes one from the budget all the same. -/
theorem within_flat {step : Nat → α → Field → Option α} {a : α} {p : Payload} {g : α → β} {b : β}
    (hm : (mergeWithin? budget step a p).map g = some b) : ∃ c, b = g c ∧ 0 < budget := by
  have hflat : ∀ below, Keeps (fun _ : α => 0) below (step below) := fun _ _ _ _ _ h => h
  exact within hflat hm (Nat.zero_le _)

end Keeps

/-! ### Messages that may be missing -/

/-- The depth of a message that may be missing. -/
def optionDepth {α : Type} (depth : α → Nat) (a? : Option α) : Nat := (a?.map depth).getD 0

section Optional

variable {α : Type} {depth : α → Nat} {a? : Option α} {n : Nat}

theorem deepest_toList_le_iff :
    deepest (a?.toList.map depth) ≤ n ↔ a? = none ∨ optionDepth depth a? < n := by
  rw [deepest_le_iff]
  cases a? <;> simp [optionDepth]

theorem optionDepth_le_pred (h : deepest (a?.toList.map depth) ≤ n) :
    optionDepth depth a? ≤ n - 1 := by
  rcases deepest_toList_le_iff.1 h with rfl | h
  · exact Nat.zero_le _
  · omega

end Optional

/-! ### Tests -/

theorem keeps_valueStep (budget : Nat) :
    Keeps (optionDepth valueDepth) budget (valueStep budget) := by
  intro v f w h hv
  unfold valueStep at h
  split at h
  case h_5 =>
    obtain ⟨p, rfl, hp⟩ := Keeps.within_flat h
    exact hp
  case h_6 => rwa [eq_of_skip? h]
  all_goals
    obtain ⟨a, -, rfl⟩ := Option.map_eq_some_iff.1 h
    exact Nat.zero_le _

theorem Relation.keeps (budget : Nat) : Keeps depth budget (step budget) := by
  intro r f q h hr
  unfold step at h
  split at h
  · obtain ⟨c, -, rfl⟩ := Option.map_eq_some_iff.1 h
    exact hr
  · obtain ⟨v, rfl, hv⟩ := Keeps.within keeps_valueStep h (optionDepth_le_pred hr)
    exact deepest_toList_le_iff.2 (.inr hv)
  · rwa [eq_of_skip? h]

namespace Bounds

/-- The depth of the message of a pair of places. -/
def placesDepth (p : Option Place × Option Place) : Nat :=
  max (deepest (p.1.toList.map fun _ => 0)) (deepest (p.2.toList.map fun _ => 0))

theorem keeps_placesStep (budget : Nat) : Keeps placesDepth budget (placesStep budget) := by
  -- a place that is read costs one, and the other place is as it was
  have hread {a : Option Place} {p : Payload} {b : Option Place}
      (h : (mergeWithin? budget placeStep (a.getD .origin) p).map some = some b) :
      deepest (b.toList.map fun _ => 0) ≤ budget := by
    obtain ⟨q, rfl, hq⟩ := Keeps.within_flat h
    exact deepest_toList_le_iff.2 (.inr hq)
  intro p f q h hp
  unfold placesStep pairStep at h
  obtain ⟨hfirst, hsecond⟩ := Nat.max_le.1 hp
  split at h
  · obtain ⟨a, ha, rfl⟩ := Option.map_eq_some_iff.1 h
    exact Nat.max_le.2 ⟨hread ha, hsecond⟩
  · obtain ⟨b, hb, rfl⟩ := Option.map_eq_some_iff.1 h
    exact Nat.max_le.2 ⟨hfirst, hread hb⟩
  · rwa [eq_of_skip? h]

/-- The places that bounds of places are merged into, if there are any. -/
theorem placesDepth_le_pred {b : Option Bounds} {n : Nat} :
    optionDepth depth b ≤ n → placesDepth (match b with
      | some (.places p) => p
      | _ => (none, none)) ≤ n - 1 := by
  intro h
  split
  · exact Nat.le_sub_one_of_lt h
  · exact Nat.zero_le _

theorem keeps (budget : Nat) : Keeps (optionDepth depth) budget (step budget) := by
  intro b f c h hb
  unfold step at h
  split at h
  case h_4 =>
    obtain ⟨p, rfl, hp⟩ := Keeps.within keeps_placesStep h (placesDepth_le_pred hb)
    exact hp
  case h_5 => rwa [eq_of_skip? h]
  all_goals
    obtain ⟨p, rfl, hp⟩ := Keeps.within_flat h
    exact hp

end Bounds

namespace Members

/-- The depth of the message of a list of places. -/
def placesDepth (ps : List Place) : Nat := deepest (ps.map fun _ => 0)

theorem placesDepth_append (ps qs : List Place) :
    placesDepth (ps ++ qs) = max (placesDepth ps) (placesDepth qs) := by
  rw [placesDepth, List.map_append, deepest_append, placesDepth, placesDepth]

theorem keeps_placesStep (budget : Nat) : Keeps placesDepth budget (placesStep budget) := by
  intro ps f qs h hps
  unfold placesStep listStep at h
  split at h
  · obtain ⟨rs, hrs, rfl⟩ := Option.map_eq_some_iff.1 h
    obtain ⟨p, rfl, hp⟩ := Keeps.within_flat hrs
    rw [placesDepth_append]
    exact Nat.max_le.2 ⟨hps, deepest_le_iff.2 (by simpa using hp)⟩
  · rwa [eq_of_skip? h]

/-- The places that members are added to, if they are places. -/
theorem placesDepth_le_pred {m : Option Members} {n : Nat} :
    optionDepth depth m ≤ n → placesDepth (match m with
      | some (.places ps) => ps
      | _ => []) ≤ n - 1 := by
  intro h
  split
  · exact Nat.le_sub_one_of_lt h
  · exact Nat.zero_le _

theorem keeps (budget : Nat) : Keeps (optionDepth depth) budget (step budget) := by
  intro m f n h hm
  unfold step at h
  split at h
  case h_5 =>
    obtain ⟨ps, rfl, hps⟩ := Keeps.within keeps_placesStep h (placesDepth_le_pred hm)
    exact hps
  case h_6 => rwa [eq_of_skip? h]
  all_goals
    obtain ⟨as, rfl, has⟩ := Keeps.within_flat h
    exact has

end Members

theorem Membership.keeps (budget : Nat) : Keeps depth budget (step budget) := by
  intro m f n h hm
  unfold step at h
  split at h
  · obtain ⟨c, -, rfl⟩ := Option.map_eq_some_iff.1 h
    exact hm
  · obtain ⟨ms, rfl, hms⟩ := Keeps.within Members.keeps h (optionDepth_le_pred hm)
    exact deepest_toList_le_iff.2 (.inr hms)
  · rwa [eq_of_skip? h]

theorem Circle.keeps (budget : Nat) : Keeps depth budget (step budget) := by
  intro c f d h hc
  unfold step at h
  split at h
  · obtain ⟨p, rfl, hp⟩ := Keeps.within_flat h
    exact deepest_toList_le_iff.2 (.inr hp)
  · obtain ⟨km, -, rfl⟩ := Option.map_eq_some_iff.1 h
    exact hc
  · rwa [eq_of_skip? h]

/-- The test that a test of its sort is merged into. -/
theorem Constraint.depth_test_le_pred {c : Constraint} {t : Test} {n : Nat} (h : c.test = some t)
    (hc : c.depth ≤ n) : t.depth - 1 ≤ n - 1 := by
  rw [depth, h] at hc
  exact Nat.sub_le_sub_right hc 1

theorem Constraint.keeps (budget : Nat) : Keeps depth budget (step budget) := by
  intro c f d h hc
  unfold step at h
  split at h
  · obtain ⟨key, -, rfl⟩ := Option.map_eq_some_iff.1 h
    exact hc
  · obtain ⟨m, rfl, hm⟩ := Keeps.within Membership.keeps h <| by
      split
      · rename_i m hm
        exact depth_test_le_pred hm hc
      · exact Nat.zero_le _
    exact hm
  · obtain ⟨b, rfl, hb⟩ := Keeps.within Bounds.keeps h <| by
      split
      · rename_i bounds hbounds
        exact depth_test_le_pred hbounds hc
      · exact Nat.zero_le _
    exact hb
  · obtain ⟨r, rfl, hr⟩ := Keeps.within Relation.keeps h <| by
      split
      · rename_i r hr
        exact depth_test_le_pred hr hc
      · exact Nat.zero_le _
    exact hr
  · obtain ⟨r, rfl, hr⟩ := Keeps.within Circle.keeps h <| by
      split
      · rename_i r hr
        exact depth_test_le_pred hr hc
      · exact Nat.zero_le _
    exact hr
  · rwa [eq_of_skip? h]

/-! ### Conditions -/

namespace Condition

/-- The depth of the message of a negation, which holds the condition that it negates. -/
def negatedDepth (c? : Option Condition) : Nat := optionDepth (fun c => c.depth + 1) c?

theorem depth_not (c? : Option Condition) : (not c?).depth = negatedDepth c? + 1 := by
  cases c? <;> rfl

theorem listDepth_append (cs ds : List Condition) :
    listDepth (cs ++ ds) = max (listDepth cs) (listDepth ds) := by
  simp only [listDepth_eq_deepest, List.map_append, deepest_append]

theorem listDepth_joined_le (j : Junction) (c : Condition) :
    listDepth (c.joined j) ≤ c.depth - 1 := by
  unfold joined
  split
  · split
    · exact Nat.le_refl _
    · exact Nat.zero_le _
  · exact Nat.zero_le _

theorem negatedDepth_negated?_le (c : Condition) : negatedDepth c.negated? ≤ c.depth - 1 := by
  unfold negated?
  split
  · rw [depth_not]
    omega
  · exact Nat.zero_le _

theorem depth_constraint_le (c : Condition) : c.constraint.depth ≤ c.depth - 1 := by
  unfold constraint
  split
  · exact Nat.le_refl _
  · exact Nat.zero_le _

/-- A block that is merged with a budget keeps to it, and whatever is made of it is one deeper. -/
theorem keeps_block {α β : Type} {depth : α → Nat} {below : Nat} {s : α → Field → Option α}
    (hs : Keeps depth below s) {a : α} {p : Payload} {g : α → β} {b : β}
    (h : (p.block?.bind fun bytes => (merge? below s a bytes).map g) = some b)
    (ha : depth a ≤ below) : ∃ c, b = g c ∧ depth c ≤ below := by
  obtain ⟨bytes, -, h⟩ := Option.bind_eq_some_iff.1 h
  obtain ⟨c, hc, rfl⟩ := Option.map_eq_some_iff.1 h
  exact ⟨c, rfl, hs.merge? hc ha⟩

/-- Conditions, junctions and negations keep to a budget together: each reads the others with one
less. -/
theorem keeps (budget : Nat) :
    Keeps depth budget (step budget) ∧ Keeps listDepth budget (junctionStep budget) ∧
      Keeps negatedDepth budget (negationStep budget) := by
  induction budget with
  | zero => exact ⟨nofun, nofun, nofun⟩
  | succ below ih =>
    obtain ⟨hstep, hjunction, hnegation⟩ := ih
    refine ⟨fun c f d h hc => ?_, fun cs f ds h hcs => ?_, fun c? f d? h hc => ?_⟩
    · have hany := listDepth_joined_le .any c
      have hall := listDepth_joined_le .all c
      have hnot := negatedDepth_negated?_le c
      have hleaf := depth_constraint_le c
      rw [step] at h
      split at h
      · obtain ⟨cs, rfl, hcs⟩ := keeps_block hjunction h (by omega)
        exact Nat.succ_le_succ hcs
      · obtain ⟨cs, rfl, hcs⟩ := keeps_block hjunction h (by omega)
        exact Nat.succ_le_succ hcs
      · obtain ⟨e, rfl, he⟩ := keeps_block hnegation h (by omega)
        rw [depth_not]
        exact Nat.succ_le_succ he
      · obtain ⟨e, rfl, he⟩ := keeps_block (Constraint.keeps below) h (by omega)
        exact Nat.succ_le_succ he
      · rwa [← Option.some.inj h]
    · rw [junctionStep] at h
      split at h
      · obtain ⟨c, rfl, hc⟩ := keeps_block hstep h (Nat.zero_le _)
        rw [listDepth_append]
        exact Nat.max_le.2 ⟨hcs, Nat.max_le.2 ⟨Nat.succ_le_succ hc, Nat.zero_le _⟩⟩
      · rwa [← Option.some.inj h]
    · have hwas : (c?.getD .unset).depth ≤ below := by
        cases c? with
        | none => exact Nat.zero_le _
        | some c => exact Nat.le_of_succ_le_succ hc
      rw [negationStep] at h
      split at h
      · obtain ⟨c, rfl, hc⟩ := keeps_block hstep h hwas
        exact Nat.succ_le_succ hc
      · rwa [← Option.some.inj h]

/-- **A condition that is read** is nested no deeper than the budget. -/
theorem depth_le_of_merge? {budget : Nat} {bytes : List UInt8} {c : Condition}
    (h : merge? budget (step budget) .unset bytes = some c) : c.depth ≤ budget :=
  (keeps budget).1.merge? h (Nat.zero_le _)

end Condition

/-! ### Queries -/

/-- The conditions of a query that is read are nested no deeper than the budget. -/
theorem Query.listDepth_le_of_merge? {budget : Nat} {bytes : List UInt8} {q : Query}
    (h : merge? budget (step budget) .empty bytes = some q) :
    Condition.listDepth q.conditions ≤ budget := by
  have hstep : Keeps (fun q : Query => Condition.listDepth q.conditions) budget (step budget) := by
    intro q f r h hq
    change Condition.listDepth q.conditions ≤ budget at hq
    change Condition.listDepth r.conditions ≤ budget
    unfold step at h
    split at h
    · obtain ⟨c, rfl, hc⟩ := Keeps.within (fun below => (Condition.keeps below).1) h (Nat.zero_le _)
      rw [Condition.listDepth_append]
      exact Nat.max_le.2 ⟨hq, Nat.max_le.2 ⟨hc, Nat.zero_le _⟩⟩
    · obtain ⟨s, -, rfl⟩ := Option.map_eq_some_iff.1 h
      exact hq
    · rwa [eq_of_skip? h]
  exact hstep.merge? h (Nat.zero_le _)

end Bazaar.Wire
