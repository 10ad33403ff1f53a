import Bazaar.Proofs.Agent.Acceptance
import Bazaar.Proofs.Agent.Sequences

/-!
Whether holdings cover a transaction, and what becomes of them if it is carried out. The verdict and
the change add up different figures, but both come to one integer: what is left of the currency
(`covers_eq_ok_iff`). Main statement: the verdict predicts the change (`covers_predicts_update`).
-/

namespace Bazaar.Agent

/-! ### A test of one figure -/

section Test

variable {figure' : Figure} {n : Int} {v : Bool} {p : Amount → Prop} [DecidablePred p] {q : Prop}

theorem test_eq_ok_iff (h : ∀ a : Amount, a.toInt = n → (p a ↔ q)) :
    (do return decide (p (← figure figure' (Amount.ofInt? n)))) = Except.ok v ↔
      Amount.InRange n ∧ (v = true ↔ q) := by
  rw [bind_eq_ok_iff]
  constructor
  · rintro ⟨a, ha, hv⟩
    have ha := Amount.ofInt?_eq_some_iff.1 (figure_eq_ok_iff.1 ha)
    cases hv
    exact ⟨ha ▸ Amount.inRange_toInt a, decide_eq_true_iff.trans (h a ha)⟩
  · rintro ⟨hin, hv⟩
    have ha := Amount.toInt_ofInt hin
    refine ⟨_, figure_eq_ok_iff.2 (Amount.ofInt?_eq_some_iff.2 ha), congrArg Except.ok ?_⟩
    exact Bool.eq_iff_iff.2 (decide_eq_true_iff.trans ((h _ ha).trans hv.symm))

theorem test_eq_error_iff {f : Fault} :
    (do return decide (p (← figure figure' (Amount.ofInt? n)))) = Except.error f ↔
      ¬ Amount.InRange n ∧ f = .overflow figure' := by
  rw [bind_eq_error_iff, figure_eq_error_iff, Amount.ofInt?_eq_none_iff]
  exact or_iff_left fun ⟨_, _, h⟩ => nomatch h

end Test

namespace Ownership

variable {o : Ownership} {t : Transaction} {f : Fault}

/-! ### The verdict -/

/-- What is left of the currency after a transaction, among the integers. -/
def currencyAfter (o : Ownership) (t : Transaction) : Int :=
  o.currencyHeld t.currency + t.currencyChange

/-- The sum that is taken for the verdict: what a buyer has to pay, or what a seller holds once the
amount has come in. -/
def reckoned (o : Ownership) (t : Transaction) : Int :=
  if t.senderBuys then t.amount.toInt + t.senderFee.toInt
  else o.currencyHeld t.currency + t.amount.toInt

/-- What the sum of the verdict is called if it is no amount. -/
def reckonedFigure (t : Transaction) : Figure :=
  if t.senderBuys then .buyerPayable else .sellerProceeds

theorem covers_ofHoldings (a g : Holdings) (t : Transaction) :
    (ofHoldings a g).covers t =
      if t.senderBuys then do
        return decide ((← figure .buyerPayable (Amount.add? t.amount t.senderFee)) ≤
          a.held t.currency)
      else do
        return decide (t.senderFee ≤
          (← figure .sellerProceeds (Amount.add? (a.held t.currency) t.amount))) := rfl

/-- **The verdict** is found if its sum is an amount, and then it says whether what is left is not
negative. -/
theorem covers_eq_ok_iff {v : Bool} (ho : o.isInitialized = true) :
    o.covers t = .ok v ↔
      Amount.InRange (o.reckoned t) ∧ (v = true ↔ 0 ≤ o.currencyAfter t) := by
  obtain ⟨a, g, rfl⟩ := exists_of_isInitialized ho
  have hheld : (ofHoldings a g).currencyHeld t.currency = (a.held t.currency).toInt := rfl
  rw [covers_ofHoldings, reckoned, currencyAfter, Transaction.currencyChange, hheld]
  split
  · refine test_eq_ok_iff fun due hdue => ?_
    rw [Amount.le_iff]
    omega
  · refine test_eq_ok_iff fun proceeds hproceeds => ?_
    rw [Amount.le_iff]
    omega

theorem covers_eq_error_iff (ho : o.isInitialized = true) :
    o.covers t = .error f ↔
      ¬ Amount.InRange (o.reckoned t) ∧ f = .overflow (reckonedFigure t) := by
  obtain ⟨a, g, rfl⟩ := exists_of_isInitialized ho
  rw [covers_ofHoldings, reckoned, reckonedFigure]
  split
  · exact test_eq_error_iff
  · exact test_eq_error_iff

/-! ### What a covered transaction adds up -/

/-- The amount and the fees of a consistent transaction are not negative, so only a sum that is too
large keeps the verdict from being found. -/
theorem not_inRange_reckoned_iff (ht : t.inconsistency? = none) :
    ¬ Amount.InRange (o.reckoned t) ↔ Amount.greatest.toInt < o.reckoned t := by
  obtain ⟨hamount, hfee, -⟩ := State.nonneg_of_consistent ht
  have hgreatest : Amount.greatest.toInt = 2 ^ 63 - 1 := rfl
  have hheld : Amount.InRange (o.currencyHeld t.currency) := Amount.inRange_toInt _
  have hleast : -2 ^ 63 ≤ o.reckoned t := by
    unfold Amount.InRange at hheld
    unfold reckoned
    split <;> omega
  unfold Amount.InRange
  omega

/-- What a covered transaction changes of the currency and what it leaves of it are amounts. -/
theorem inRange_of_covers (ho : o.isInitialized = true) (ht : t.inconsistency? = none)
    (h : o.covers t = .ok true) :
    Amount.InRange t.currencyChange ∧ Amount.InRange (o.currencyAfter t) := by
  obtain ⟨hreckoned, hafter⟩ := (covers_eq_ok_iff ho).1 h
  have hafter := hafter.1 rfl
  obtain ⟨hamount, hfee, -⟩ := State.nonneg_of_consistent ht
  have hheld : Amount.InRange (o.currencyHeld t.currency) := Amount.inRange_toInt _
  have hamount' := Amount.inRange_toInt t.amount
  have hfee' := Amount.inRange_toInt t.senderFee
  unfold currencyAfter Transaction.currencyChange at *
  unfold reckoned at hreckoned
  unfold Amount.InRange at *
  split at hreckoned
  · rename_i hbuys
    rw [if_pos hbuys] at *
    omega
  · rename_i hsells
    rw [if_neg hsells] at *
    omega

/-! ### What stands against a covered transaction -/

/-- **What a good has against a transaction**, by the fault that says so: a seller's change of it is
no amount, or what would be held of it is none. -/
inductive GoodBlocks (o : Ownership) (t : Transaction) : Fault → Prop
  | quantity (sells : t.senderBuys = false) (g : GoodId)
    (least : t.quantities.get? g = some Int64.minValue) : GoodBlocks o t (.overflow (.goodDelta g))
  | good (g : GoodId) (named : g ∈ t.quantities.keys)
    (beyond : ¬ Amount.InRange (o.goodHeld g + t.quantityChange g)) :
    GoodBlocks o t (.overflow (.holding g))

theorem GoodBlocks.blocks (h : o.GoodBlocks t f) : o.Blocks t f := by
  cases h with
  | quantity sells g least => exact .quantity sells g least
  | good g _ beyond => exact .good g beyond

/-- Of a good that a transaction does not name, there is no more than before. -/
theorem mem_keys_of_not_inRange {g : GoodId}
    (h : ¬ Amount.InRange (o.goodHeld g + t.quantityChange g)) : g ∈ t.quantities.keys := by
  by_contra hnamed
  rw [SortedMap.mem_keys_iff, Option.not_isSome_iff_eq_none] at hnamed
  have hnone : (t.quantities.held g).toInt = 0 := SortedMap.heldIn_eq_zero hnamed
  have hchange : t.quantityChange g = 0 := by
    unfold Transaction.quantityChange
    rw [hnone]
    split <;> rfl
  rw [hchange, Int.add_zero] at h
  exact h (Amount.inRange_toInt _)

/-- Only a good can stand against a covered transaction. -/
theorem goodBlocks_of_blocks (ho : o.isInitialized = true) (ht : t.inconsistency? = none)
    (h : o.covers t = .ok true) (hf : o.Blocks t f) : o.GoodBlocks t f := by
  obtain ⟨hchange, hafter⟩ := inRange_of_covers ho ht h
  obtain ⟨hreckoned, -⟩ := (covers_eq_ok_iff ho).1 h
  unfold Transaction.currencyChange at hchange
  unfold reckoned at hreckoned
  cases hf with
  | amounts unset => simp [isInitialized, unset] at ho
  | goods unset => simp [isInitialized, unset] at ho
  | due buys beyond =>
    rw [if_pos buys] at hreckoned
    exact absurd hreckoned beyond
  | payment buys beyond =>
    rw [if_pos buys] at hchange
    exact absurd hchange beyond
  | proceeds sells beyond =>
    rw [sells, if_neg Bool.false_ne_true] at hchange
    exact absurd hchange beyond
  | currency beyond => exact absurd hafter beyond
  | quantity sells g least => exact .quantity sells g least
  | good g beyond => exact .good g (mem_keys_of_not_inRange beyond) beyond

/-- **The currency of a covered transaction** is found and added without a fault. -/
theorem exists_add_of_covers (ho : o.isInitialized = true) (ht : t.inconsistency? = none)
    (h : o.covers t = .ok true) :
    ∃ delta a a', currencyDelta t = .ok delta ∧ o.amounts = .ok a ∧
      a.add t.currency delta = .ok a' := by
  obtain ⟨-, hafter⟩ := inRange_of_covers ho ht h
  cases hdelta : currencyDelta t with
  | error f =>
    -- the fault would stand against the transaction, but it is none of a good
    obtain ⟨hbuys, rfl, hdue | hpayment⟩ | ⟨hsells, rfl, hproceeds⟩ := currencyDelta_eq_error hdelta
    · cases goodBlocks_of_blocks ho ht h (.due hbuys hdue)
    · cases goodBlocks_of_blocks ho ht h (.payment hbuys hpayment)
    · cases goodBlocks_of_blocks ho ht h (.proceeds hsells hproceeds)
  | ok delta =>
    obtain ⟨a, g, rfl⟩ := exists_of_isInitialized ho
    cases ha : a.add t.currency delta with
    | ok a' => exact ⟨delta, a, a', rfl, rfl, ha⟩
    | error f =>
      obtain ⟨hbeyond, -⟩ := Holdings.add_eq_error_iff.1 ha
      rw [toInt_of_currencyDelta hdelta] at hbeyond
      exact absurd hafter hbeyond

/-! ### The verdict and the change -/

/-- **The verdict predicts the change.** On holdings of both kinds, a consistent transaction is
covered just if what it leaves of the currency is not negative, and this is what the change leaves.
The currency of a covered transaction is added without a fault, so that the change fails exactly if
a good stands against it. There is no verdict only if what a buyer has to pay, or what a seller holds
once the amount has come in, exceeds the largest amount. -/
theorem covers_predicts_update (o : Ownership) (t : Transaction) (ho : o.isInitialized = true)
    (ht : t.inconsistency? = none) :
    (∀ v, o.covers t = .ok v → (v = true ↔ 0 ≤ o.currencyAfter t)) ∧
    (∀ o', o.update t = .ok o' → o'.currencyHeld t.currency = o.currencyAfter t) ∧
    (o.covers t = .ok true →
      (∃ delta a a', currencyDelta t = .ok delta ∧ o.amounts = .ok a ∧
        a.add t.currency delta = .ok a') ∧
      ((∃ f, o.update t = .error f) ↔ ∃ f, o.GoodBlocks t f) ∧
      ∀ f, o.update t = .error f → o.GoodBlocks t f) ∧
    ∀ f, o.covers t = .error f ↔
      (t.senderBuys = true ∧ f = .overflow .buyerPayable ∧
        Amount.greatest.toInt < t.amount.toInt + t.senderFee.toInt) ∨
      (t.senderBuys = false ∧ f = .overflow .sellerProceeds ∧
        Amount.greatest.toInt < o.currencyHeld t.currency + t.amount.toInt) := by
  refine ⟨fun v hv => ((covers_eq_ok_iff ho).1 hv).2, fun o' h => currencyHeld_of_update h,
    fun h => ⟨exists_add_of_covers ho ht h, ?_, fun f hf => ?_⟩, fun f => ?_⟩
  · exact exists_error_iff (fun hf => goodBlocks_of_blocks ho ht h (blocks_of_update_eq_error hf))
      fun ho' hf => not_blocks_of_update ho' hf.blocks
  · exact goodBlocks_of_blocks ho ht h (blocks_of_update_eq_error hf)
  · rw [covers_eq_error_iff ho, not_inRange_reckoned_iff ht]
    unfold reckoned reckonedFigure
    cases t.senderBuys with
    | true => simp [and_comm]
    | false => simp [and_comm]

/-- A sale for 10, with a fee of 7, of as many of a good as cannot be given up. -/
def excessSale : Transaction :=
  ⟨.propose, "1", "a", "b", false, "FET", 10, 7, 0, .ofList [("apple", Int64.minValue)], "l",
    .empty, none⟩

/-- With 3 of the currency owed the sale is covered to the last unit, and fails for its good. -/
theorem covers_predicts_update_debt :
    let o := ofHoldings (.ofList [("FET", -3)]) .empty
    (o.isInitialized = true ∧ excessSale.inconsistency? = none) ∧
      (o.covers excessSale = .ok true ∧ o.currencyAfter excessSale = 0 ∧
        0 ≤ o.currencyAfter excessSale) ∧
      o.update excessSale = .error (.overflow (.goodDelta "apple")) ∧
      o.GoodBlocks excessSale (.overflow (.goodDelta "apple")) := by
  intro o
  have ho : o.isInitialized = true := rfl
  have ht : excessSale.inconsistency? = none := by decide +kernel
  have hcovers : o.covers excessSale = .ok true := by decide +kernel
  have hupdate : o.update excessSale = .error (.overflow (.goodDelta "apple")) := by decide +kernel
  obtain ⟨hverdict, -, hcovered, -⟩ := covers_predicts_update o excessSale ho ht
  exact ⟨⟨ho, ht⟩, ⟨hcovers, by decide +kernel, (hverdict true hcovers).1 rfl⟩, hupdate,
    (hcovered hcovers).2.2 _ hupdate⟩

end Ownership

end Bazaar.Agent
