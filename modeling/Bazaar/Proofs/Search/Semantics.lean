import Bazaar.Search.Condition

/-!
What conditions ask of a description. A test asks for a value of its attribute that the criterion
admits (`Constraint.holds_eq_any`), and a joined condition for what is joined
(`Condition.holds_join`).
-/

namespace Bazaar.Search

/-! ### Values that are admitted -/

section Admitted

variable [Trigonometry]

/-- Whether a value is of the type that is tested, if that is known, and passes. -/
def Criterion.admits (c : Criterion) (v : Value) : Bool := c.type?.all (v.type == ·) && c.holds v

theorem Constraint.holds_eq_any (l : Constraint) (d : Description) :
    l.holds d = (d.value? l.key).any l.criterion.admits := by
  unfold holds
  cases d.value? l.key with
  | none => rfl
  | some v =>
    rw [Option.any_some, Criterion.admits]
    cases l.criterion.type? <;> rfl

theorem Criterion.admits_iff {c : Criterion} {v : Value} :
    c.admits v = true ↔ (∀ t, c.type? = some t → v.type = t) ∧ c.holds v = true := by
  rw [admits, Bool.and_eq_true, Option.all_eq_true]
  simp

end Admitted

/-! ### Conditions that are joined -/

namespace Junction

variable {α β : Type}

/-- Whether something is so of all of a list, or of any. -/
def among (j : Junction) (p : α → Bool) (as : List α) : Bool :=
  match j with
  | .all => as.all p
  | .any => as.any p

/-- Two answers, for the first member and for the others, put together. -/
def combine (j : Junction) (x y : Bool) : Bool :=
  match j with
  | .all => x && y
  | .any => x || y

theorem combine_eq (j : Junction) {x y x' y' b : Bool} (hx : x = b → x' = b) (hy : y = b → y' = b)
    (h : j.combine x y = b) : j.combine x' y' = b := by
  cases j <;> cases b <;>
    simp only [combine, Bool.and_eq_true, Bool.and_eq_false_iff, Bool.or_eq_true,
      Bool.or_eq_false_iff] at h ⊢ <;>
    exact h.imp hx hy

theorem among_cons (j : Junction) (p : α → Bool) (a : α) (as : List α) :
    j.among p (a :: as) = j.combine (p a) (j.among p as) := by
  cases j <;> rfl

theorem among_map (j : Junction) (p : β → Bool) (f : α → β) (as : List α) :
    j.among p (as.map f) = j.among (p ∘ f) as := by
  cases j with
  | all => exact List.all_map
  | any => exact List.any_map

theorem among_congr (j : Junction) {p q : α → Bool} {as : List α} (h : ∀ a ∈ as, p a = q a) :
    j.among p as = j.among q as := by
  have hmap : as.map p = as.map q := List.map_congr_left h
  calc j.among p as = j.among id (as.map p) := (j.among_map id p as).symm
    _ = j.among id (as.map q) := by rw [hmap]
    _ = j.among q as := j.among_map id q as

/-- What is so of none is so neither of all nor of any, unless the list is empty. -/
theorem among_false (j : Junction) {as : List α} (h : as ≠ []) :
    j.among (fun _ => false) as = false := by
  cases as with
  | nil => exact absurd rfl h
  | cons a as => cases j <;> simp [among]

end Junction

namespace Condition

variable [Trigonometry]

theorem allHold_eq_all (d : Description) (cs : List Condition) :
    allHold d cs = cs.all (·.holds d) := by
  induction cs with
  | nil => rfl
  | cons c cs ih => rw [allHold, ih, List.all_cons]

theorem anyHolds_eq_any (d : Description) (cs : List Condition) :
    anyHolds d cs = cs.any (·.holds d) := by
  induction cs with
  | nil => rfl
  | cons c cs ih => rw [anyHolds, ih, List.any_cons]

theorem holds_join (j : Junction) (cs : List Condition) (d : Description) :
    (join j cs).holds d = j.among (·.holds d) cs := by
  cases j with
  | all =>
    rw [holds, allHold_eq_all]
    rfl
  | any =>
    rw [holds, anyHolds_eq_any]
    rfl

theorem holds_not (c : Condition) (d : Description) : (not c).holds d = !c.holds d := by rw [holds]

theorem holds_leaf (l : Constraint) (d : Description) : (leaf l).holds d = l.holds d := by
  rw [holds]

end Condition

end Bazaar.Search
