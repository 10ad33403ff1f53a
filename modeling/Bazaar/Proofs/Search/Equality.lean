import Bazaar.Search.Description

/-!
Equality of what is registered, searched and sent. A NaN is not equal to itself, so this is no
equivalence; but it does not matter which of two things is compared with which. Main statements:
equality of descriptions is symmetric (`Description.equal_comm`), and a description is equal to
itself unless it holds a NaN, when it is equal to nothing (`Description.equal_self` and
`Description.equal_eq_false`).
-/

namespace Bazaar

theorem Double.equal_iff {a b : Double} :
    a.equal b = true ↔ a.isNaN = false ∧ b.isNaN = false ∧ a.rank = b.rank := by
  unfold equal compare?
  cases a.isNaN <;> cases b.isNaN <;> simp

theorem Double.equal_comm (a b : Double) : a.equal b = b.equal a := by
  rw [Bool.eq_iff_iff, equal_iff, equal_iff]
  constructor
  · rintro ⟨ha, hb, h⟩
    exact ⟨hb, ha, h.symm⟩
  · rintro ⟨hb, ha, h⟩
    exact ⟨ha, hb, h.symm⟩

theorem Double.equal_self (a : Double) : a.equal a = !a.isNaN := by
  rw [Bool.eq_iff_iff, equal_iff, Bool.not_eq_true']
  exact ⟨fun h => h.1, fun h => ⟨h, h, rfl⟩⟩

namespace Search

theorem Place.equal_comm (p q : Place) : p.equal q = q.equal p := by
  rw [equal, equal, Double.equal_comm p.latitude, Double.equal_comm p.longitude]

theorem Value.equal_comm (v w : Value) : v.equal w = w.equal v := by
  cases v <;> cases w
  case bool.bool | int.int | text.text => exact Bool.beq_comm
  case double.double a b => exact Double.equal_comm a b
  case place.place p q => exact Place.equal_comm p q
  all_goals rfl

theorem Schema.equal_comm (s t : Schema) : s.equal t = t.equal s := by
  rw [equal, equal, Bool.beq_comm, Bool.beq_comm (a := s.attributes.map Attribute.bare)]

namespace Description

theorem equalEntries_comm (es fs : List (String × Value)) :
    equalEntries es fs = equalEntries fs es := by
  induction es generalizing fs with
  | nil => cases fs <;> rfl
  | cons e es ih =>
    cases fs with
    | nil => rfl
    | cons f fs => rw [equalEntries, equalEntries, ih fs, Bool.beq_comm, Value.equal_comm e.2]

/-- **Equality of descriptions is symmetric.** -/
theorem equal_comm (d e : Description) : d.equal e = e.equal d := by
  rw [equal, equal, equalEntries_comm d.values.entries, Schema.equal_comm d.schema]

end Description

/-! ### What is equal to itself -/

/-- Whether a value is a NaN, or a place with a coordinate that is one. -/
def Value.hasNaN : Value → Bool
  | .double d => d.isNaN
  | .place p => p.latitude.isNaN || p.longitude.isNaN
  | _ => false

theorem Value.equal_self (v : Value) : v.equal v = !v.hasNaN := by
  cases v with
  | double d => exact d.equal_self
  | place p =>
    change (p.latitude.equal p.latitude && p.longitude.equal p.longitude) = _
    rw [Double.equal_self, Double.equal_self, ← Bool.not_or]
    rfl
  | _ => exact beq_self_eq_true _

theorem Value.hasNaN_of_equal {v w : Value} (h : v.equal w = true) : v.hasNaN = false := by
  cases v <;> cases w
  case double.double a b => exact (Double.equal_iff.1 h).1
  case place.place p q =>
    obtain ⟨hlat, hlong⟩ := Bool.and_eq_true_iff.1 h
    exact Bool.or_eq_false_iff.2 ⟨(Double.equal_iff.1 hlat).1, (Double.equal_iff.1 hlong).1⟩
  all_goals first | rfl | cases h

theorem Schema.equal_self (s : Schema) : s.equal s = true := by
  rw [equal, beq_self_eq_true, beq_self_eq_true, Bool.and_self]

namespace Description

/-- Whether a value of a description is or holds a NaN. -/
def hasNaN (d : Description) : Bool := d.values.values.any Value.hasNaN

theorem equalEntries_self (es : List (String × Value)) :
    equalEntries es es = !(es.map (·.2)).any Value.hasNaN := by
  induction es with
  | nil => rfl
  | cons e es ih =>
    rw [equalEntries, beq_self_eq_true, Bool.true_and, Value.equal_self, ih, List.map_cons,
      List.any_cons, Bool.not_or]

theorem hasNaN_of_equalEntries {es fs : List (String × Value)} (h : equalEntries es fs = true) :
    (es.map (·.2)).any Value.hasNaN = false := by
  induction es generalizing fs with
  | nil => rfl
  | cons e es ih =>
    cases fs with
    | nil => cases h
    | cons f fs =>
      rw [equalEntries, Bool.and_eq_true, Bool.and_eq_true] at h
      obtain ⟨⟨-, hvalue⟩, hrest⟩ := h
      rw [List.map_cons, List.any_cons, Value.hasNaN_of_equal hvalue, ih hrest, Bool.or_self]

/-- **A description is equal to itself unless it holds a NaN.** -/
theorem equal_self (d : Description) : d.equal d = !d.hasNaN := by
  rw [equal, Schema.equal_self, Bool.and_true, equalEntries_self]
  rfl

/-- **A description that holds a NaN is equal to nothing.** -/
theorem equal_eq_false {d : Description} (h : d.hasNaN = true) (e : Description) :
    e.equal d = false := by
  rw [equal_comm, Bool.eq_false_iff]
  intro heq
  have hentries := hasNaN_of_equalEntries (Bool.and_eq_true_iff.1 heq).1
  cases h.symm.trans hentries

end Description

end Search

end Bazaar
