import Bazaar.Proofs.Agent.Updates
import Mathlib.Algebra.BigOperators.Group.List.Basic

/-!
What an agent owns after a list of transactions. Each of them makes its change, so a list that is
carried out makes the exact sum of the changes, whatever the holdings were in between. Main
statement: a list is carried out by the exact sums, part by part, and in any order in which it can
be carried out at all (`apply_exact`).
-/

namespace Bazaar

-- sums are those of the core library, as in `Amount.total`
attribute [local instance (high)] Zero.ofOfNat0

namespace Holdings

/-! ### Changes one after the other -/

namespace Change

/-- No change. -/
def none : Change := ⟨fun _ => 0, fun _ => False⟩

/-- One change and then another. -/
def andThen (d e : Change) : Change where
  added k := d.added k + e.added k
  names k := d.names k ∨ e.names k

end Change

variable {h h' h'' : Holdings} {d e : Change}

theorem Changes.refl (h : Holdings) : h.Changes .none h where
  held _ := (Int.add_zero _).symm
  keys _ := (or_iff_left id).symm

theorem Changes.trans (h₁ : h.Changes d h') (h₂ : h'.Changes e h'') :
    h.Changes (d.andThen e) h'' where
  held k := by rw [h₂.held, h₁.held, Int.add_assoc]; rfl
  keys k := by rw [h₂.keys, h₁.keys, or_assoc]; rfl

end Holdings

/-! ### The changes of a list of transactions -/

namespace Transaction

/-- What a list of transactions changes of a currency: the sum over those in that currency. -/
def currencyTotal (ts : List Transaction) (c : CurrencyId) : Int :=
  ((ts.filter (·.currency = c)).map (·.currencyChange)).sum

/-- What a list of transactions changes of a good. -/
def quantityTotal (ts : List Transaction) (g : GoodId) : Int :=
  (ts.map (·.quantityChange g)).sum

/-- What a list of transactions changes of its sender's currencies. -/
def amountChanges (ts : List Transaction) : Holdings.Change where
  added := currencyTotal ts
  names c := ∃ t ∈ ts, t.currency = c

/-- What a list of transactions changes of its sender's goods. -/
def goodChanges (ts : List Transaction) : Holdings.Change where
  added := quantityTotal ts
  names g := ∃ t ∈ ts, g ∈ t.quantities.keys

theorem amountChanges_nil : amountChanges [] = .none :=
  congrArg₂ Holdings.Change.mk (funext fun _ => rfl) (funext fun c => by simp)

theorem goodChanges_nil : goodChanges [] = .none :=
  congrArg₂ Holdings.Change.mk (funext fun _ => rfl) (funext fun g => by simp)

theorem currencyTotal_cons (t : Transaction) (ts : List Transaction) (c : CurrencyId) :
    currencyTotal (t :: ts) c = t.amountChange.added c + currencyTotal ts c := by
  unfold currencyTotal
  rw [added_amountChange]
  by_cases hc : t.currency = c
  · rw [List.filter_cons_of_pos (by simp [hc]), List.map_cons, List.sum_cons, if_pos hc.symm]
  · rw [List.filter_cons_of_neg (by simp [hc]), if_neg (Ne.symm hc), Int.zero_add]

theorem amountChanges_cons (t : Transaction) (ts : List Transaction) :
    amountChanges (t :: ts) = t.amountChange.andThen (amountChanges ts) := by
  refine congrArg₂ Holdings.Change.mk (funext (currencyTotal_cons t ts)) (funext fun c => ?_)
  simp [amountChange, amountChanges, eq_comm]

theorem goodChanges_cons (t : Transaction) (ts : List Transaction) :
    goodChanges (t :: ts) = t.goodChange.andThen (goodChanges ts) := by
  refine congrArg₂ Holdings.Change.mk (funext fun g => ?_) (funext fun g => ?_)
  · rw [quantityTotal, List.map_cons, List.sum_cons]
    rfl
  · simp [goodChange, goodChanges]

variable {ts us : List Transaction}

theorem amountChanges_of_perm (h : ts.Perm us) : amountChanges ts = amountChanges us := by
  refine congrArg₂ Holdings.Change.mk (funext fun c => ?_) (funext fun c => ?_)
  · exact ((h.filter _).map _).sum_eq
  · simp only [h.mem_iff]

theorem goodChanges_of_perm (h : ts.Perm us) : goodChanges ts = goodChanges us := by
  refine congrArg₂ Holdings.Change.mk (funext fun g => ?_) (funext fun g => ?_)
  · exact (h.map _).sum_eq
  · simp only [h.mem_iff]

end Transaction

namespace Agent.Ownership

variable {o o' o'' : Ownership} {ts us : List Transaction}

/-! ### Lists of transactions -/

theorem Changes.unique {amounts goods : Holdings.Change} (h₁ : o.Changes amounts goods o')
    (h₂ : o.Changes amounts goods o'') : o' = o'' := by
  obtain ⟨a, g, a', g', rfl, rfl, ha, hg⟩ := h₁
  obtain ⟨b, k, b', k', heq, rfl, hb, hk⟩ := h₂
  cases heq
  rw [ha.unique hb, hg.unique hk]

theorem Changes.trans {amounts amounts' goods goods' : Holdings.Change}
    (h₁ : o.Changes amounts goods o') (h₂ : o'.Changes amounts' goods' o'') :
    o.Changes (amounts.andThen amounts') (goods.andThen goods') o'' := by
  obtain ⟨a, g, a', g', rfl, rfl, ha, hg⟩ := h₁
  obtain ⟨b, k, b', k', heq, rfl, hb, hk⟩ := h₂
  cases heq
  exact ⟨a, g, b', k', rfl, rfl, ha.trans hb, hg.trans hk⟩

theorem Changes.refl (a g : Holdings) :
    (ofHoldings a g).Changes .none .none (ofHoldings a g) :=
  ⟨a, g, a, g, rfl, rfl, .refl a, .refl g⟩

theorem apply_append (o : Ownership) (ts us : List Transaction) :
    o.apply (ts ++ us) = o.apply ts >>= fun o' => o'.apply us := by
  induction ts generalizing o with
  | nil => rfl
  | cons t ts ih =>
    simp only [List.cons_append, apply, bind_assoc]
    exact congrArg (o.update t >>= ·) (funext ih)

/-- **A list of transactions makes its change** if it is carried out. -/
theorem changes_of_apply {a g : Holdings} (h : (ofHoldings a g).apply ts = .ok o') :
    (ofHoldings a g).Changes (Transaction.amountChanges ts) (Transaction.goodChanges ts) o' := by
  induction ts generalizing a g with
  | nil =>
    cases h
    rw [Transaction.amountChanges_nil, Transaction.goodChanges_nil]
    exact .refl a g
  | cons t ts ih =>
    obtain ⟨o₁, hfirst, hrest⟩ := bind_eq_ok_iff.1 h
    obtain ⟨_, _, a₁, g₁, -, rfl, -, -⟩ := changes_of_update hfirst
    rw [Transaction.amountChanges_cons, Transaction.goodChanges_cons]
    exact (changes_of_update hfirst).trans (ih hrest)

theorem exists_of_isInitialized (h : o.isInitialized = true) : ∃ a g, o = .ofHoldings a g := by
  obtain ⟨_ | a, _ | g⟩ := o
  · cases h
  · cases h
  · cases h
  · exact ⟨a, g, rfl⟩

/-- **Transactions are applied exactly and in any order.** On holdings of both kinds, a list that is
carried out changes every currency and every good by the exact sum over the list, and adds just the
keys that the list names. A list in two parts is carried out part by part, with the same fault if
there is one. One order of a list may fail where another does not, as a sum in between leaves the
range of amounts; but two orders that both succeed come to the same. -/
theorem apply_exact (o : Ownership) (h : o.isInitialized = true) :
    (∀ ts o', o.apply ts = .ok o' →
      o.Changes (Transaction.amountChanges ts) (Transaction.goodChanges ts) o') ∧
    (∀ ts us, o.apply (ts ++ us) = o.apply ts >>= fun o' => o'.apply us) ∧
    ∀ ts us o₁ o₂, ts.Perm us → o.apply ts = .ok o₁ → o.apply us = .ok o₂ → o₁ = o₂ := by
  obtain ⟨a, g, rfl⟩ := exists_of_isInitialized h
  refine ⟨fun ts o' => changes_of_apply, apply_append _, fun ts us o₁ o₂ hperm h₁ h₂ => ?_⟩
  have hchanges := changes_of_apply h₁
  rw [Transaction.amountChanges_of_perm hperm, Transaction.goodChanges_of_perm hperm] at hchanges
  exact hchanges.unique (changes_of_apply h₂)

/-- An exchange of 10 of a currency for one good, with a fee of 1. -/
def exchange (senderBuys : Bool) (good : GoodId) : Transaction :=
  ⟨.propose, "1", "a", "b", senderBuys, "FET", 10, 1, 0, .ofList [(good, 1)], "l", .empty, none⟩

/-- With 5 short of the largest amount two purchases can be made in either order before a sale, but
the sale cannot come first. -/
theorem apply_exact_orders :
    let o := ofHoldings (.ofList [("FET", Amount.greatest - 5)]) (.ofList [("apple", 3)])
    let pear := exchange true "pear"
    let plum := exchange true "plum"
    let apple := exchange false "apple"
    o.isInitialized = true ∧
      (∃ o', o.apply [pear, plum, apple] = .ok o' ∧ o.apply [plum, pear, apple] = .ok o' ∧
        o.Changes (Transaction.amountChanges [pear, plum, apple])
          (Transaction.goodChanges [pear, plum, apple]) o') ∧
      Transaction.currencyTotal [pear, plum, apple] "FET" = -13 ∧
      o.apply [apple, pear, plum] = .error (.overflow (.holding "FET")) := by
  intro o pear plum apple
  have ho : o.isInitialized = true := rfl
  let o' := ofHoldings (.ofList [("FET", Amount.greatest - 18)])
    (.ofList [("apple", 2), ("pear", 1), ("plum", 1)])
  have hfirst : o.apply [pear, plum, apple] = .ok o' := by decide +kernel
  obtain ⟨o₂, hsecond⟩ : ∃ o₂, o.apply [plum, pear, apple] = .ok o₂ := ⟨o', by decide +kernel⟩
  obtain ⟨hexact, -, horders⟩ := apply_exact o ho
  have hsame : o₂ = o' := horders _ _ o₂ o' (.swap pear plum [apple]) hsecond hfirst
  exact ⟨ho, ⟨o', hfirst, hsame ▸ hsecond, hexact _ o' hfirst⟩, by decide +kernel,
    by decide +kernel⟩

end Agent.Ownership

end Bazaar
