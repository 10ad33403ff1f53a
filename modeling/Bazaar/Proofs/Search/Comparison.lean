import Bazaar.Proofs.Search.Equality

/-!
The order of values. Values of one type that are in order at all are in order as in a chain, the
doubles among them by their ranks. Main statements: comparison of values is transitive
(`Value.compare?_trans`) and is turned around with its arguments (`Value.compare?_swap`).
-/

namespace Bazaar

/-- What is at most something that is at most a third is so related to the third as the two
relations say together. -/
theorem compare_trans {α : Type} [Ord α] [Std.TransOrd α] {a b c : α}
    (h : (compare a b).isLE = true) (h' : (compare b c).isLE = true) :
    compare a c = (compare a b).then (compare b c) := by
  cases hab : compare a b with
  | lt => exact Std.TransCmp.lt_of_lt_of_isLE hab h'
  | eq => exact Std.TransCmp.congr_left hab
  | gt =>
    rw [hab] at h
    cases h

namespace Double

theorem compare?_eq_some_iff {a b : Double} {o : Ordering} :
    a.compare? b = some o ↔ a.isNaN = false ∧ b.isNaN = false ∧ compare a.rank b.rank = o := by
  unfold compare?
  cases a.isNaN <;> cases b.isNaN <;> simp

theorem compare?_trans {a b c : Double} {o r : Ordering} (h : a.compare? b = some o)
    (h' : b.compare? c = some r) (ho : o.isLE = true) (hr : r.isLE = true) :
    a.compare? c = some (o.then r) := by
  obtain ⟨ha, -, rfl⟩ := compare?_eq_some_iff.1 h
  obtain ⟨-, hc, rfl⟩ := compare?_eq_some_iff.1 h'
  exact compare?_eq_some_iff.2 ⟨ha, hc, compare_trans ho hr⟩

theorem compare?_swap (a b : Double) : b.compare? a = (a.compare? b).map Ordering.swap := by
  unfold compare?
  rw [Bool.or_comm]
  split
  · rfl
  · exact congrArg some Std.OrientedCmp.eq_swap

theorem compare?_comm_of_eq {a b : Double} :
    a.compare? b = some .eq ↔ b.compare? a = some .eq := by
  rw [compare?_swap b a]
  cases b.compare? a with
  | none => rfl
  | some o => cases o <;> simp

/-- Only the two zeros are equal without being the same. -/
theorem eq_or_isZero {a b : Double} (h : a.compare? b = some .eq) :
    a = b ∨ a.isZero = true ∧ b.isZero = true := by
  obtain ⟨-, -, h⟩ := compare?_eq_some_iff.1 h
  have hrank : a.rank = b.rank := Std.LawfulEqCmp.eq_of_compare h
  have hbits : a.bits.toNat = b.bits.toNat ∨ a.magnitude = 0 ∧ b.magnitude = 0 := by
    unfold rank isNegative at hrank
    unfold magnitude at *
    have ha := a.bits.toNat_lt
    have hb := b.bits.toNat_lt
    simp only [decide_eq_true_eq] at hrank
    split at hrank <;> split at hrank <;> omega
  refine hbits.imp (fun h => congrArg mk (UInt64.toNat_inj.1 h)) fun h => ?_
  simp [isZero, h.1, h.2]

end Double

namespace Search

namespace Value

variable {u v w : Value} {o r : Ordering}

theorem type_eq_of_compare? (h : v.compare? w = some o) : v.type = w.type := by
  cases v <;> cases w <;> first | rfl | cases h

theorem compare?_place_eq_some_iff {p q : Place} :
    (place p).compare? (place q) = some o ↔ o = .eq ∧
      p.latitude.compare? q.latitude = some .eq ∧ p.longitude.compare? q.longitude = some .eq := by
  simp only [compare?, Option.ite_none_right_eq_some, Option.some.injEq]
  rw [and_comm, eq_comm]

/-- **Comparison is turned around** with its arguments. -/
theorem compare?_swap (v w : Value) : w.compare? v = (v.compare? w).map Ordering.swap := by
  cases v <;> cases w
  case bool.bool | int.int | text.text => exact congrArg some Std.OrientedCmp.eq_swap
  case double.double a b => exact Double.compare?_swap a b
  case place.place p q =>
    simp only [compare?, Double.compare?_comm_of_eq (a := q.latitude),
      Double.compare?_comm_of_eq (a := q.longitude)]
    split <;> rfl
  all_goals rfl

/-- **Comparison is transitive.** -/
theorem compare?_trans (h : u.compare? v = some o) (h' : v.compare? w = some r)
    (ho : o.isLE = true) (hr : r.isLE = true) : u.compare? w = some (o.then r) := by
  -- values of different types have no order, which leaves one case for each type
  cases u <;> cases v <;> try (cases h; done)
  all_goals cases w <;> try (cases h'; done)
  case bool.bool.bool | int.int.int | text.text.text =>
    cases h
    cases h'
    exact congrArg some (compare_trans ho hr)
  case double.double.double => exact Double.compare?_trans h h' ho hr
  case place.place.place =>
    obtain ⟨rfl, hlat, hlong⟩ := compare?_place_eq_some_iff.1 h
    obtain ⟨rfl, hlat', hlong'⟩ := compare?_place_eq_some_iff.1 h'
    exact compare?_place_eq_some_iff.2
      ⟨rfl, Double.compare?_trans hlat hlat' rfl rfl, Double.compare?_trans hlong hlong' rfl rfl⟩

/-! ### What is asked of a comparison -/

theorem agrees_iff : v.agrees w = true ↔ v.compare? w = some .eq := by
  rw [agrees, beq_iff_eq]

theorem below_iff : v.below w = true ↔ v.compare? w = some .lt := by
  rw [below, beq_iff_eq]

theorem atMost_iff : v.atMost w = true ↔ ∃ o, v.compare? w = some o ∧ o.isLE = true := by
  unfold atMost below agrees
  cases v.compare? w with
  | none => simp
  | some o => cases o <;> simp

theorem above_eq_below (v w : Value) : v.above w = w.below v := by
  unfold above below
  rw [compare?_swap v w]
  cases v.compare? w with
  | none => rfl
  | some o => cases o <;> rfl

theorem atLeast_eq_atMost (v w : Value) : v.atLeast w = w.atMost v := by
  unfold atLeast atMost above below agrees
  rw [compare?_swap v w]
  cases v.compare? w with
  | none => rfl
  | some o => cases o <;> rfl

theorem type_eq_of_atMost (h : v.atMost w = true) : v.type = w.type := by
  obtain ⟨o, ho, -⟩ := atMost_iff.1 h
  exact type_eq_of_compare? ho

theorem agrees_trans (h : u.agrees v = true) (h' : v.agrees w = true) : u.agrees w = true :=
  agrees_iff.2 (compare?_trans (agrees_iff.1 h) (agrees_iff.1 h') rfl rfl)

theorem atMost_trans (h : u.atMost v = true) (h' : v.atMost w = true) : u.atMost w = true := by
  obtain ⟨o, h, ho⟩ := atMost_iff.1 h
  obtain ⟨r, h', hr⟩ := atMost_iff.1 h'
  refine atMost_iff.2 ⟨_, compare?_trans h h' ho hr, ?_⟩
  cases o <;> simp_all

theorem below_of_below_of_atMost (h : u.below v = true) (h' : v.atMost w = true) :
    u.below w = true := by
  obtain ⟨r, h', hr⟩ := atMost_iff.1 h'
  exact below_iff.2 (compare?_trans (below_iff.1 h) h' rfl hr)

theorem below_of_atMost_of_below (h : u.atMost v = true) (h' : v.below w = true) :
    u.below w = true := by
  obtain ⟨o, h, ho⟩ := atMost_iff.1 h
  refine below_iff.2 ((compare?_trans h (below_iff.1 h') ho rfl).trans ?_)
  cases o <;> simp_all

end Value

end Search

end Bazaar
