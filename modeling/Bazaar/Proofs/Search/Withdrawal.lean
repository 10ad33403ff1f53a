import Bazaar.Proofs.Search.Registration

/-!
Descriptions that are registered and withdrawn again. Both go by equality, and a NaN is equal to
nothing: what holds one is registered again and again, and can only be withdrawn with everything
else. Main statement: a description that was registered can be withdrawn just if it holds no NaN
(`Directory.withdrawable_iff`).
-/

namespace Bazaar.Search.Directory

variable {r : Directory} {a : Address} {d : Description}

/-! ### Calls about a description that is there, and about one that is not -/

theorem descriptions_register (r : Directory) (a : Address) (d : Description) :
    (r.register a d).1.descriptions a =
      if (r.descriptions a).any (·.equal d) then r.descriptions a else r.descriptions a ++ [d] :=
  descriptions_serve_self r (.register a d)

theorem descriptions_withdraw (r : Directory) (a : Address) (d : Description) :
    (r.withdraw a d).1.descriptions a = (r.descriptions a).filter (!·.equal d) :=
  descriptions_serve_self r (.withdraw a d)

theorem register_eq_self (h : (r.descriptions a).any (·.equal d) = true) :
    r.register a d = (r, false) := by
  simp only [register]
  exact if_pos h

/-- Nothing changes when there is nothing to withdraw, except that an address without descriptions
would be forgotten. -/
theorem withdraw_eq_self (hne : r.descriptions a ≠ [])
    (h : (r.descriptions a).any (·.equal d) = false) : r.withdraw a d = (r, false) := by
  have hkept : (r.descriptions a).filter (!·.equal d) = r.descriptions a := by
    rw [List.filter_eq_self]
    intro e he
    simpa using List.any_eq_false.1 h e he
  refine Prod.ext (eq_of_get? fun b => ?_) ((withdraw_snd r a d).trans h)
  rw [get?_withdraw, Call.revise, hkept, listing?_of_ne hne, ← get?_eq_of_descriptions_ne hne]
  split
  · rename_i hb
    rw [hb]
  · rfl

/-! ### Withdrawing what was registered -/

/-- **A description can be registered once and then withdrawn**: registering it again does nothing,
withdrawing it succeeds, and after that the address has neither it nor anything equal, and is found
only for the sake of what else it had. -/
structure Withdrawable [Trigonometry] (r : Directory) (a : Address) (d : Description) : Prop where
  once : (r.register a d).1.register a d = ((r.register a d).1, false)
  found : ((r.register a d).1.withdraw a d).2 = true
  gone : ∀ e ∈ ((r.register a d).1.withdraw a d).1.descriptions a, e ≠ d ∧ e.equal d = false
  unsearched : ∀ q, a ∈ ((r.register a d).1.withdraw a d).1.search q ↔
    ∃ e ∈ r.descriptions a, e.equal d = false ∧ q.holds e = true

theorem any_register (h : d.equal d = true) :
    ((r.register a d).1.descriptions a).any (·.equal d) = true := by
  rw [descriptions_register]
  split
  · assumption
  · rw [List.any_append, List.any_cons, h, Bool.true_or, Bool.or_true]

/-- What is withdrawn after a registration is what was equal before. -/
theorem descriptions_withdraw_register (h : d.equal d = true) :
    ((r.register a d).1.withdraw a d).1.descriptions a =
      (r.descriptions a).filter (!·.equal d) := by
  rw [descriptions_withdraw, descriptions_register]
  split
  · rfl
  · rw [List.filter_append, List.filter_cons_of_neg (by simp [h]), List.filter_nil, List.append_nil]

theorem withdrawable_of_equal_self [Trigonometry] (h : d.equal d = true) : r.Withdrawable a d where
  once := register_eq_self (any_register h)
  found := (withdraw_snd _ a d).trans (any_register h)
  gone := by
    intro e he
    rw [descriptions_withdraw_register h, List.mem_filter, Bool.not_eq_true'] at he
    refine ⟨?_, he.2⟩
    rintro rfl
    rw [h] at he
    cases he.2
  unsearched := by
    intro q
    rw [mem_search_iff, descriptions_withdraw_register h]
    simp only [List.mem_filter, Bool.not_eq_true', and_assoc]

/-- A description that is not equal to itself stays: each registration adds it, and withdrawing it
does nothing. -/
theorem stays_of_hasNaN (h : d.hasNaN = true) :
    d ∈ (r.register a d).1.descriptions a ∧
      ((r.register a d).1.register a d).2 = true ∧
      (r.register a d).1.withdraw a d = ((r.register a d).1, false) := by
  have hany (ds : List Description) : ds.any (·.equal d) = false :=
    List.any_eq_false.2 fun e _ => Bool.eq_false_iff.1 (Description.equal_eq_false h e)
  have hmem : d ∈ (r.register a d).1.descriptions a := by
    rw [descriptions_register, hany, if_neg Bool.false_ne_true]
    exact List.mem_concat_self
  refine ⟨hmem, ?_, withdraw_eq_self (List.ne_nil_of_mem hmem) (hany _)⟩
  rw [register_snd, hany, Bool.not_false]

/-- **What was registered can be withdrawn just if it holds no NaN**, whatever else the directory
holds. A description that holds one stays where it is: just then registering it again adds it again,
and withdrawing it does nothing. -/
theorem withdrawable_iff [Trigonometry] (r : Directory) (a : Address) (d : Description) :
    (r.Withdrawable a d ↔ d.hasNaN = false) ∧
    (((r.register a d).1.register a d).2 = true ↔ d.hasNaN = true) ∧
    (d ∈ (r.register a d).1.descriptions a ∧
      (r.register a d).1.withdraw a d = ((r.register a d).1, false) ↔ d.hasNaN = true) := by
  cases h : d.hasNaN with
  | false =>
    have hw : r.Withdrawable a d := withdrawable_of_equal_self (by rw [d.equal_self, h]; rfl)
    refine ⟨iff_of_true hw rfl, iff_of_false ?_ Bool.false_ne_true, iff_of_false ?_ Bool.false_ne_true⟩
    · rw [hw.once]
      exact Bool.false_ne_true
    · rintro ⟨-, hstays⟩
      have hfound := hw.found
      rw [hstays] at hfound
      exact Bool.false_ne_true hfound
  | true =>
    obtain ⟨hmem, hagain, hwithdraw⟩ := r.stays_of_hasNaN (a := a) h
    refine ⟨iff_of_false (fun hw => ?_) nofun, iff_of_true hagain rfl,
      iff_of_true ⟨hmem, hwithdraw⟩ rfl⟩
    rw [hw.once] at hagain
    exact Bool.false_ne_true hagain

/-- A gauge that shows no number. -/
def brokenGauge : Description := .ofValues "gauge" (.ofList [("level", .double ⟨0x7ff8000000000000⟩)])

attribute [local instance] Trigonometry.ofPlatform in
/-- A broken gauge is registered and cannot be withdrawn. -/
theorem not_forall_withdrawable :
    ¬ ∀ (cs : List Call) (a : Address) (d : Description), (empty.after cs).Withdrawable a d := by
  intro h
  have hfound := (h [] "amy" brokenGauge).found
  have hnot : ((empty.register "amy" brokenGauge).1.withdraw "amy" brokenGauge).2 = false := by decide
  cases hfound.symm.trans hnot

end Bazaar.Search.Directory
