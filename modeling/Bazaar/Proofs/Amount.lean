import Bazaar.SortedMap
import Bazaar.Amount

/-!
Amounts as integers: when a sum or a difference is an amount, when the sum of a list is, and what
the total of a map of amounts becomes when an entry is put.
-/

namespace Bazaar

namespace Amount

/-! ### Order and single operations -/

theorem le_iff {a b : Amount} : a ≤ b ↔ a.toInt ≤ b.toInt := Int64.le_iff_toInt_le

theorem lt_iff {a b : Amount} : a < b ↔ a.toInt < b.toInt := Int64.lt_iff_toInt_lt

theorem nonneg_iff {a : Amount} : 0 ≤ a ↔ 0 ≤ a.toInt := by
  rw [le_iff, Int64.toInt_zero]

theorem neg_iff {a : Amount} : a < 0 ↔ a.toInt < 0 := by
  rw [lt_iff, Int64.toInt_zero]

theorem not_neg_iff {a : Amount} : ¬ a < 0 ↔ 0 ≤ a.toInt := by
  rw [neg_iff, Int.not_lt]

@[simp] theorem add?_eq_some_iff {a b c : Amount} :
    add? a b = some c ↔ c.toInt = a.toInt + b.toInt := ofInt?_eq_some_iff

@[simp] theorem sub?_eq_some_iff {a b c : Amount} :
    sub? a b = some c ↔ c.toInt = a.toInt - b.toInt := ofInt?_eq_some_iff

/-- An integer between zero and an amount is an amount. -/
theorem exists_toInt_of_le {n : Int} {a : Amount} (h₀ : 0 ≤ n) (h : n ≤ a.toInt) :
    ∃ b : Amount, b.toInt = n := by
  have ha := (inRange_toInt a).2
  exact ⟨Int64.ofInt n, toInt_ofInt ⟨by omega, by omega⟩⟩

/-! ### Sums of lists -/

@[simp] theorem total_nil : total [] = 0 := rfl

@[simp] theorem total_cons (a : Amount) (as : List Amount) :
    total (a :: as) = a.toInt + total as := rfl

@[simp] theorem total_append (as bs : List Amount) : total (as ++ bs) = total as + total bs := by
  simp [total]

theorem total_nonneg {as : List Amount} (h : ∀ a ∈ as, 0 ≤ a.toInt) : 0 ≤ total as := by
  induction as with
  | nil => simp
  | cons a as ih =>
    have ha := h a List.mem_cons_self
    have has := ih fun b hb => h b (List.mem_cons_of_mem _ hb)
    rw [total_cons]
    omega

/-- Every partial sum of a list, taken from the left, is an amount. -/
def IsSummable (as : List Amount) : Prop := ∀ bs, bs <+: as → InRange (total bs)

/-- A sum taken on from `s` exists just if it never leaves the range of amounts on the way. -/
theorem foldlM_add?_eq_some_iff {s t : Amount} {as : List Amount} :
    as.foldlM add? s = some t ↔
      (∀ bs, bs <+: as → InRange (s.toInt + total bs)) ∧ t.toInt = s.toInt + total as := by
  induction as generalizing s with
  | nil =>
    have hin : InRange (s.toInt + total []) := by simpa using inRange_toInt s
    rw [List.foldlM_nil, total_nil, Int.add_zero, Int64.toInt_inj]
    constructor
    · intro h
      refine ⟨fun bs hbs => ?_, (Option.some.inj h).symm⟩
      rwa [List.prefix_nil.1 hbs]
    · rintro ⟨-, rfl⟩
      rfl
  | cons a as ih =>
    rw [List.foldlM_cons, Option.bind_eq_bind, Option.bind_eq_some_iff]
    constructor
    · rintro ⟨b, hb, h⟩
      obtain ⟨hin, ht⟩ := ih.1 h
      rw [add?_eq_some_iff] at hb
      refine ⟨fun bs hbs => ?_, by rw [total_cons]; omega⟩
      rcases List.prefix_cons_iff.1 hbs with rfl | ⟨cs, rfl, hcs⟩
      · simpa using inRange_toInt s
      · rw [total_cons, ← Int.add_assoc, ← hb]
        exact hin cs hcs
    · rintro ⟨hin, ht⟩
      have hfirst : InRange (s.toInt + a.toInt) := by
        simpa using hin [a] (List.prefix_cons_iff.2 (.inr ⟨[], rfl, List.nil_prefix⟩))
      obtain ⟨b, hb⟩ : ∃ b : Amount, b.toInt = s.toInt + a.toInt := ⟨_, toInt_ofInt hfirst⟩
      refine ⟨b, add?_eq_some_iff.2 hb, ih.2 ⟨fun cs hcs => ?_, ?_⟩⟩
      · rw [hb, Int.add_assoc, ← total_cons]
        exact hin (a :: cs) (List.prefix_cons_iff.2 (.inr ⟨cs, rfl, hcs⟩))
      · rw [hb, Int.add_assoc, ← total_cons, ht]

/-- A list has a sum exactly if every partial sum is an amount, and then it is the exact one. -/
theorem sum?_eq_some_iff {as : List Amount} {s : Amount} :
    sum? as = some s ↔ IsSummable as ∧ s.toInt = total as := by
  have hzero : (0 : Amount).toInt = 0 := Int64.toInt_zero
  rw [sum?, foldlM_add?_eq_some_iff, hzero, Int.zero_add]
  simp only [IsSummable, Int.zero_add]

theorem total_prefix_le {as bs : List Amount} (h : ∀ a ∈ as, 0 ≤ a.toInt) (hbs : bs <+: as) :
    total bs ≤ total as := by
  obtain ⟨cs, rfl⟩ := hbs
  have hcs := total_nonneg fun c hc => h c (List.mem_append_right bs hc)
  rw [total_append]
  omega

/-- Without negative members the partial sums only grow, so none exceeds the total. -/
theorem isSummable_of_nonneg {as : List Amount} {n : Amount} (h : ∀ a ∈ as, 0 ≤ a.toInt)
    (hn : total as ≤ n.toInt) : IsSummable as := by
  intro bs hbs
  have hle := total_prefix_le h hbs
  have hbs0 := total_nonneg fun b hb => h b (hbs.subset hb)
  have hrange := inRange_toInt n
  simp only [InRange] at hrange ⊢
  omega

end Amount

/-! ### Totals of maps -/

namespace SortedMap

/-- The amount under a key as an integer, zero if there is none. -/
def heldIn (k : String) (es : List (String × Amount)) : Int := ((find k es).getD 0).toInt

theorem heldIn_eq_zero {k : String} {es : List (String × Amount)} (h : find k es = none) :
    heldIn k es = 0 := by
  rw [heldIn, h]
  exact Int64.toInt_zero

theorem total_put {k : String} {v : Amount} {es : List (String × Amount)}
    (hs : es.Pairwise (fun p q => p.1 < q.1)) :
    Amount.total ((put k v es).map (·.2)) =
      Amount.total (es.map (·.2)) - heldIn k es + v.toInt := by
  induction es with
  | nil =>
    rw [heldIn_eq_zero rfl]
    simp [put]
  | cons e es ih =>
    obtain ⟨l, w⟩ := e
    obtain ⟨hl, hes⟩ := List.pairwise_cons.1 hs
    simp only [put]
    split
    · rename_i hk
      have hn : find k ((l, w) :: es) = none := find_eq_none_of_lt fun p hp => by
        rcases List.mem_cons.1 hp with rfl | hp
        · exact hk
        · exact String.lt_trans hk (hl p hp)
      rw [heldIn_eq_zero hn]
      simp only [List.map_cons, Amount.total_cons]
      omega
    · rename_i hk
      split
      · rename_i hk'
        have hne : k ≠ l := fun h => hk (h ▸ hk')
        have hh : heldIn k ((l, w) :: es) = heldIn k es := by
          rw [heldIn, find, if_neg hne, heldIn]
        simp only [List.map_cons, Amount.total_cons, ih hes, hh]
        omega
      · rename_i hk'
        have hh : heldIn k ((l, w) :: es) = w.toInt := by
          rw [heldIn, find, if_pos (eq_of_not_lt hk hk'), Option.getD_some]
        simp only [List.map_cons, Amount.total_cons, hh]
        omega

theorem total_values_insert (m : SortedMap Amount) (k : String) (v : Amount) :
    Amount.total (m.insert k v).values =
      Amount.total m.values - ((m.get? k).getD 0).toInt + v.toInt := total_put m.sorted

theorem exists_get?_of_mem_values {α : Type} {m : SortedMap α} {v : α} (h : v ∈ m.values) :
    ∃ k, m.get? k = some v := by
  obtain ⟨e, he, rfl⟩ := List.mem_map.1 h
  exact ⟨e.1, mem_entries_iff.1 he⟩

end SortedMap

end Bazaar
