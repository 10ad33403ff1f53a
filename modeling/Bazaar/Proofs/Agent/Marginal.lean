import Bazaar.Proofs.Agent.Adjustments
import Bazaar.Proofs.Agent.Scores

/-!
Two ways to score a transaction: by what it makes of the holdings, and by the amounts that it adds
to them. Both score the same bundles, before and after. They succeed together, but for a purchase
whose price with the fee is just beyond the range of amounts while its negation is not. Main
statement: `scoreChange_marginal`.
-/

namespace Bazaar

/-! ### The adjustment of a transaction -/

namespace Transaction

/-- Whether what a transaction changes of its sender's holdings are amounts. -/
def IsAmounts (t : Transaction) : Prop :=
  Amount.InRange t.currencyChange ∧ ∀ g, Amount.InRange (t.quantityChange g)

/-- Whether what a buyer pays is an amount. -/
def IsPayable (t : Transaction) : Prop :=
  t.senderBuys = true → Amount.InRange (t.amount.toInt + t.senderFee.toInt)

instance (t : Transaction) : Decidable t.IsPayable := by unfold IsPayable; infer_instance

end Transaction

namespace Agent

variable {d : Adjustment} {t : Transaction} {o o' : Ownership}

/-- **An adjustment is that of a transaction** if it adds just what the transaction changes. -/
structure Adjustment.IsOf (d : Adjustment) (t : Transaction) : Prop where
  amounts : d.amounts.change = t.amountChange
  goods : d.goods.change = t.goodChange

namespace Adjustment.IsOf

theorem toInt_currency (hd : d.IsOf t) :
    (d.amounts.held t.currency).toInt = t.currencyChange := by
  have hadded := congrFun (congrArg Holdings.Change.added hd.amounts) t.currency
  rwa [Transaction.added_amountChange, if_pos rfl] at hadded

theorem toInt_good (hd : d.IsOf t) (g : GoodId) : (d.goods.held g).toInt = t.quantityChange g :=
  congrFun (congrArg Holdings.Change.added hd.goods) g

theorem isAmounts (hd : d.IsOf t) : t.IsAmounts := by
  refine ⟨?_, fun g => ?_⟩
  · rw [← hd.toInt_currency]
    exact Amount.inRange_toInt _
  · rw [← hd.toInt_good]
    exact Amount.inRange_toInt _

/-- What a buyer pays is an amount unless its negation is the least one. -/
theorem isPayable_iff (hd : d.IsOf t) : t.IsPayable ↔
    ¬ (t.senderBuys = true ∧ d.amounts.held t.currency = Int64.minValue) := by
  unfold Transaction.IsPayable
  rw [not_and]
  refine imp_congr_right fun hbuys => ?_
  have hheld := hd.toInt_currency
  have hrange := Amount.inRange_toInt (d.amounts.held t.currency)
  have hmin : Int64.minValue.toInt = -2 ^ 63 := rfl
  rw [← Int64.toInt_inj, hheld, hmin]
  rw [hheld] at hrange
  rw [Transaction.currencyChange, if_pos hbuys] at *
  unfold Amount.InRange at *
  omega

end Adjustment.IsOf

theorem change_insert (c : CurrencyId) (a : Amount) : Holdings.change (.insert .empty c a) =
    ⟨fun k => if k = c then a.toInt else 0, fun k => k = c⟩ := by
  refine congrArg₂ Holdings.Change.mk (funext fun k => ?_) (funext fun k => propext ?_)
  · rw [Holdings.held_insert]
    split
    · rfl
    · rfl
  · rw [Holdings.mem_keys_insert]
    exact or_iff_right List.not_mem_nil

/-- A seller gives up quantities that have a negation if what is given up are amounts. -/
theorem isNegatable_of_isAmounts (ht : t.IsAmounts) (hsells : ¬ t.senderBuys = true) :
    t.quantities.IsNegatable := by
  intro g hleast
  have hg := ht.2 g
  have hheld : t.quantities.held g = Int64.minValue := by
    rw [Holdings.held, SortedMap.getD, hleast, Option.getD_some]
  rw [Transaction.quantityChange, if_neg hsells, hheld] at hg
  exact absurd hg (by decide)

theorem exists_isOf_iff : (∃ d : Adjustment, d.IsOf t) ↔ t.IsAmounts := by
  refine ⟨fun ⟨d, hd⟩ => hd.isAmounts, fun ht => ?_⟩
  have hamounts : Holdings.change (.insert .empty t.currency (.ofInt t.currencyChange)) =
      t.amountChange := by
    rw [change_insert, Amount.toInt_ofInt ht.1]
    rfl
  by_cases hbuys : t.senderBuys = true
  · refine ⟨⟨_, t.quantities⟩, hamounts, congrArg₂ Holdings.Change.mk (funext fun g => ?_) rfl⟩
    rw [Transaction.quantityChange, if_pos hbuys]
  · refine ⟨⟨_, t.quantities.neg⟩, hamounts,
      congrArg₂ Holdings.Change.mk (funext fun g => ?_) (funext fun g => ?_)⟩
    · rw [Transaction.quantityChange, if_neg hbuys]
      exact Holdings.held_neg (isNegatable_of_isAmounts ht hbuys) g
    · exact propext Holdings.mem_keys_neg

/-! ### Carrying out and adding -/

namespace Ownership

/-- What stands against a transaction does not stand against its adjustment: only the sum that a
buyer pays is missing there. -/
theorem not_blocks_of_adjust {f : Fault} (hd : d.IsOf t) (hpayable : t.IsPayable)
    (hadjust : o.adjust d = .ok o') : ¬ o.Blocks t f := by
  obtain ⟨a, g, a', g', rfl, -, ha, hg⟩ := adjust_eq_ok_iff.1 hadjust
  obtain ⟨hcurrency, hgoods⟩ := hd.isAmounts
  intro hblocks
  cases hblocks with
  | amounts unset => cases unset
  | goods unset => cases unset
  | due buys beyond => exact beyond (hpayable buys)
  | payment buys beyond =>
    rw [Transaction.currencyChange, if_pos buys] at hcurrency
    exact beyond hcurrency
  | proceeds sells beyond =>
    rw [Transaction.currencyChange, sells, if_neg Bool.false_ne_true] at hcurrency
    exact beyond hcurrency
  | quantity sells k least =>
    exact isNegatable_of_isAmounts hd.isAmounts (by rw [sells]; exact Bool.false_ne_true) k least
  | currency beyond =>
    have hc := ha.held t.currency
    rw [hd.amounts, Transaction.added_amountChange, if_pos rfl] at hc
    exact beyond (hc ▸ Amount.inRange_toInt (a'.held t.currency))
  | good k beyond =>
    have hk := hg.held k
    rw [hd.goods] at hk
    exact beyond (hk ▸ Amount.inRange_toInt (g'.held k))

/-- **A transaction is carried out as its adjustment is**, if what a buyer pays is an amount. -/
theorem update_eq_ok_iff_adjust (hd : d.IsOf t) :
    o.update t = .ok o' ↔ t.IsPayable ∧ o.adjust d = .ok o' := by
  constructor
  · intro hupdate
    refine ⟨fun buys => not_not.1 fun beyond => ?_, ?_⟩
    · exact not_blocks_of_update hupdate (.due buys beyond)
    · rw [adjust_eq_ok_iff, hd.amounts, hd.goods]
      exact changes_of_update hupdate
  · rintro ⟨hpayable, hadjust⟩
    cases hupdate : o.update t with
    | error f =>
      exact absurd (blocks_of_update_eq_error hupdate) (not_blocks_of_adjust hd hpayable hadjust)
    | ok o'' =>
      have hchanges := changes_of_update hupdate
      rw [← hd.amounts, ← hd.goods] at hchanges
      rw [hchanges.unique (adjust_eq_ok_iff.1 hadjust)]

end Ownership

/-! ### Scores -/

/-- The change of a score, from its components before and after, if the sums are taken first. -/
def changeOfSums {α : Type} [Add α] [Sub α] (g c g' c' : α) : α := (g' + c') - (g + c)

/-- The change of a score if one component is taken after the other. -/
def changeInTurn {α : Type} [Add α] [Sub α] (g c g' c' : α) : α := g' + c' - g - c

/-- In exact arithmetic it does not matter how the change is taken. -/
theorem changeOfSums_eq_changeInTurn (g c g' c' : ℚ) :
    changeOfSums g c g' c' = changeInTurn g c g' c' := sub_add_eq_sub_sub _ _ _

namespace Preferences

variable {p : Preferences} {goods amounts : Holdings}

/-- The two components of the score of a bundle. -/
structure HasComponents (p : Preferences) (goods amounts : Holdings) (g c : Float) : Prop where
  goods : p.goodsScore goods = .ok g
  currency : p.currencyScore amounts = .ok c

theorem exists_hasComponents (hp : p.isInitialized = true) (goods amounts : Holdings) :
    ∃ g c, p.HasComponents goods amounts g c := by
  obtain ⟨e, u, fees, shift, rfl⟩ := exists_of_isInitialized hp
  exact ⟨_, _, rfl, rfl⟩

theorem HasComponents.score_eq {g c : Float} (h : p.HasComponents goods amounts g c) :
    p.score goods amounts = .ok (g + c) := by
  unfold score
  rw [h.goods, h.currency]
  rfl

/-- The components of a bundle are all there is to its score. -/
theorem HasComponents.unique {g c g' c' : Float} (h : p.HasComponents goods amounts g c)
    (h' : p.HasComponents goods amounts g' c') : g = g' ∧ c = c' :=
  ⟨Except.ok.inj (h.goods.symm.trans h'.goods), Except.ok.inj (h.currency.symm.trans h'.currency)⟩

/-- **A transaction is scored** by the components before and after it. -/
theorem scoreChange_eq_ok_iff (hp : p.isInitialized = true) {x : Float} :
    p.scoreChange (.ofHoldings amounts goods) t = .ok x ↔ ∃ amounts' goods' g c g' c',
      (Ownership.ofHoldings amounts goods).update t = .ok (.ofHoldings amounts' goods') ∧
      p.HasComponents goods amounts g c ∧ p.HasComponents goods' amounts' g' c' ∧
      x = changeOfSums g c g' c' := by
  constructor
  · intro h
    obtain ⟨_, hgoods, h⟩ := bind_eq_ok_iff.1 h
    obtain ⟨_, hamounts, h⟩ := bind_eq_ok_iff.1 h
    obtain ⟨before, hbefore, h⟩ := bind_eq_ok_iff.1 h
    obtain ⟨next, hnext, h⟩ := bind_eq_ok_iff.1 h
    obtain ⟨_, hupdate, hsame⟩ := bind_eq_ok_iff.1 hnext
    cases hgoods
    cases hamounts
    cases hsame
    obtain ⟨_, _, _, _, amounts', goods', -, -, -, -, -, rfl⟩ := Ownership.update_eq_ok_iff.1 hupdate
    obtain ⟨_, hgoods, h⟩ := bind_eq_ok_iff.1 h
    obtain ⟨_, hamounts, h⟩ := bind_eq_ok_iff.1 h
    obtain ⟨after, hafter, h⟩ := bind_eq_ok_iff.1 h
    cases hgoods
    cases hamounts
    obtain ⟨g, c, hcomponents⟩ := exists_hasComponents hp goods amounts
    obtain ⟨g', c', hcomponents'⟩ := exists_hasComponents hp goods' amounts'
    cases hcomponents.score_eq.symm.trans hbefore
    cases hcomponents'.score_eq.symm.trans hafter
    cases h
    exact ⟨amounts', goods', g, c, g', c', hupdate, hcomponents, hcomponents', rfl⟩
  · rintro ⟨amounts', goods', g, c, g', c', hupdate, hbefore, hafter, rfl⟩
    refine bind_eq_ok_iff.2 ⟨goods, rfl, bind_eq_ok_iff.2 ⟨amounts, rfl, ?_⟩⟩
    refine bind_eq_ok_iff.2 ⟨g + c, hbefore.score_eq, ?_⟩
    refine bind_eq_ok_iff.2 ⟨_, bind_eq_ok_iff.2 ⟨_, hupdate, rfl⟩, ?_⟩
    exact bind_eq_ok_iff.2 ⟨goods', rfl, bind_eq_ok_iff.2 ⟨amounts', rfl,
      bind_eq_ok_iff.2 ⟨_, hafter.score_eq, rfl⟩⟩⟩

/-- A component of the score once the given amounts are added, the same as before if none are. -/
def component (score : Holdings → Except Fault Float) (h : Holdings) (before : Float) :
    Option Holdings → Except Fault Float
  | some d => do score (← h.addAll d)
  | none => .ok before

theorem marginal_eq (p : Preferences) (goods amounts : Holdings)
    (goodDeltas amountDeltas : Option Holdings) :
    p.marginal (.ofHoldings amounts goods) goodDeltas amountDeltas = do
      let g ← p.goodsScore goods
      let c ← p.currencyScore amounts
      let g' ← component p.goodsScore goods g goodDeltas
      let c' ← component p.currencyScore amounts c amountDeltas
      return changeInTurn g c g' c' := by
  unfold marginal component
  cases goodDeltas <;> cases amountDeltas <;> simp only [bind_assoc] <;> rfl

/-- **Amounts are scored** by the components before and after they are added. -/
theorem marginal_eq_ok_iff {goodDeltas amountDeltas : Option Holdings} {y : Float} :
    p.marginal (.ofHoldings amounts goods) goodDeltas amountDeltas = .ok y ↔ ∃ g c g' c',
      p.HasComponents goods amounts g c ∧ component p.goodsScore goods g goodDeltas = .ok g' ∧
      component p.currencyScore amounts c amountDeltas = .ok c' ∧ y = changeInTurn g c g' c' := by
  rw [marginal_eq]
  constructor
  · intro h
    obtain ⟨g, hg, h⟩ := bind_eq_ok_iff.1 h
    obtain ⟨c, hc, h⟩ := bind_eq_ok_iff.1 h
    obtain ⟨g', hg', h⟩ := bind_eq_ok_iff.1 h
    obtain ⟨c', hc', h⟩ := bind_eq_ok_iff.1 h
    cases h
    exact ⟨g, c, g', c', ⟨hg, hc⟩, hg', hc', rfl⟩
  · rintro ⟨g, c, g', c', hbefore, hg', hc', rfl⟩
    refine bind_eq_ok_iff.2 ⟨g, hbefore.goods, bind_eq_ok_iff.2 ⟨c, hbefore.currency, ?_⟩⟩
    exact bind_eq_ok_iff.2 ⟨g', hg', bind_eq_ok_iff.2 ⟨c', hc', rfl⟩⟩

/-- The amounts of an adjustment are scored as a transaction is. -/
theorem marginal_adjustment_eq_ok_iff {y : Float} :
    p.marginal (.ofHoldings amounts goods) (some d.goods) (some d.amounts) = .ok y ↔
      ∃ amounts' goods' g c g' c',
        (Ownership.ofHoldings amounts goods).adjust d = .ok (.ofHoldings amounts' goods') ∧
        p.HasComponents goods amounts g c ∧ p.HasComponents goods' amounts' g' c' ∧
        y = changeInTurn g c g' c' := by
  rw [marginal_eq_ok_iff]
  constructor
  · rintro ⟨g, c, g', c', hbefore, hg', hc', rfl⟩
    obtain ⟨goods', hgoods, hg'⟩ := bind_eq_ok_iff.1 hg'
    obtain ⟨amounts', hamounts, hc'⟩ := bind_eq_ok_iff.1 hc'
    have hadjust := Ownership.applyDeltas_eq_ok_iff.2
      ⟨amounts, goods, amounts', goods', rfl, hamounts, hgoods, rfl⟩
    exact ⟨amounts', goods', g, c, g', c', hadjust, hbefore, ⟨hg', hc'⟩, rfl⟩
  · rintro ⟨amounts', goods', g, c, g', c', hadjust, hbefore, hafter, rfl⟩
    obtain ⟨_, _, _, _, heq, hamounts, hgoods, heq'⟩ := Ownership.applyDeltas_eq_ok_iff.1 hadjust
    cases heq
    cases heq'
    exact ⟨g, c, g', c', hbefore, bind_eq_ok_iff.2 ⟨goods', hgoods, hafter.goods⟩,
      bind_eq_ok_iff.2 ⟨amounts', hamounts, hafter.currency⟩, rfl⟩

/-- The amounts of a transaction are scored whenever it is; and it is scored whenever they are, if
what a buyer pays is an amount. -/
theorem exists_scoreChange_iff (hp : p.isInitialized = true) (hd : d.IsOf t) :
    (∃ x, p.scoreChange (.ofHoldings amounts goods) t = .ok x) ↔ t.IsPayable ∧
      ∃ y, p.marginal (.ofHoldings amounts goods) (some d.goods) (some d.amounts) = .ok y := by
  constructor
  · rintro ⟨x, hx⟩
    obtain ⟨a', g', _, _, _, _, hupdate, hbefore, hafter, -⟩ := (scoreChange_eq_ok_iff hp).1 hx
    obtain ⟨hpayable, hadjust⟩ := (Ownership.update_eq_ok_iff_adjust hd).1 hupdate
    exact ⟨hpayable, _, marginal_adjustment_eq_ok_iff.2
      ⟨a', g', _, _, _, _, hadjust, hbefore, hafter, rfl⟩⟩
  · rintro ⟨hpayable, y, hy⟩
    obtain ⟨a', g', _, _, _, _, hadjust, hbefore, hafter, -⟩ := marginal_adjustment_eq_ok_iff.1 hy
    have hupdate := (Ownership.update_eq_ok_iff_adjust hd).2 ⟨hpayable, hadjust⟩
    exact ⟨_, (scoreChange_eq_ok_iff hp).2 ⟨a', g', _, _, _, _, hupdate, hbefore, hafter, rfl⟩⟩

/-- Both ways score the same bundles, by the same four components. -/
theorem exists_components {x y : Float} (hp : p.isInitialized = true) (hd : d.IsOf t)
    (hx : p.scoreChange (.ofHoldings amounts goods) t = .ok x)
    (hy : p.marginal (.ofHoldings amounts goods) (some d.goods) (some d.amounts) = .ok y) :
    ∃ amounts' goods' g c g' c',
      (Ownership.ofHoldings amounts goods).update t = .ok (.ofHoldings amounts' goods') ∧
      (Ownership.ofHoldings amounts goods).adjust d = .ok (.ofHoldings amounts' goods') ∧
      p.HasComponents goods amounts g c ∧ p.HasComponents goods' amounts' g' c' ∧
      x = changeOfSums g c g' c' ∧ y = changeInTurn g c g' c' := by
  obtain ⟨a', g', _, _, _, _, hupdate, hbefore, hafter, rfl⟩ := (scoreChange_eq_ok_iff hp).1 hx
  obtain ⟨_, _, _, _, _, _, hadjust, hbefore', hafter', rfl⟩ := marginal_adjustment_eq_ok_iff.1 hy
  have hsame := ((Ownership.update_eq_ok_iff_adjust hd).1 hupdate).2
  cases hsame.symm.trans hadjust
  obtain ⟨rfl, rfl⟩ := hbefore.unique hbefore'
  obtain ⟨rfl, rfl⟩ := hafter.unique hafter'
  exact ⟨a', g', _, _, _, _, hupdate, hadjust, hbefore, hafter, rfl, rfl⟩

/-- **A transaction and the amounts that it changes are scored alike.** These are an adjustment
exactly if all of them are in the range of amounts. Then the transaction is scored if and only if
the adjustment is and, in a purchase, what the buyer pays is an amount itself, which it fails to be
only where its negation is the least amount. There are four components, of what is owned before and
of the same holdings after, such that the one score is the difference of their sums and the other
takes them in turn; in exact arithmetic this is the same. Where the amounts of one side are not
given, its component stays as it is. -/
theorem scoreChange_marginal (p : Preferences) (o : Ownership) (t : Transaction)
    (hp : p.isInitialized = true) (ho : o.isInitialized = true) :
    ((∃ d : Adjustment, d.IsOf t) ↔ t.IsAmounts) ∧
    ∃ amounts goods, o = .ofHoldings amounts goods ∧
    (∀ d : Adjustment, d.IsOf t →
      ((∃ x, p.scoreChange o t = .ok x) ↔
        t.IsPayable ∧ ∃ y, p.marginal o (some d.goods) (some d.amounts) = .ok y) ∧
      (t.IsPayable ↔ ¬ (t.senderBuys = true ∧ d.amounts.held t.currency = Int64.minValue)) ∧
      ∀ x y, p.scoreChange o t = .ok x → p.marginal o (some d.goods) (some d.amounts) = .ok y →
        ∃ amounts' goods' g c g' c', o.update t = .ok (.ofHoldings amounts' goods') ∧
          o.adjust d = .ok (.ofHoldings amounts' goods') ∧
          p.HasComponents goods amounts g c ∧ p.HasComponents goods' amounts' g' c' ∧
          x = changeOfSums g c g' c' ∧ y = changeInTurn g c g' c') ∧
    (∀ g c g' c' : ℚ, changeOfSums g c g' c' = changeInTurn g c g' c') ∧
    ∀ goodDeltas amountDeltas y, p.marginal o goodDeltas amountDeltas = .ok y ↔ ∃ g c g' c',
      p.HasComponents goods amounts g c ∧ component p.goodsScore goods g goodDeltas = .ok g' ∧
      component p.currencyScore amounts c amountDeltas = .ok c' ∧ y = changeInTurn g c g' c' := by
  obtain ⟨amounts, goods, rfl⟩ := Ownership.exists_of_isInitialized ho
  refine ⟨exists_isOf_iff, amounts, goods, rfl, fun d hd => ⟨exists_scoreChange_iff hp hd,
    hd.isPayable_iff, fun x y => exists_components hp hd⟩, changeOfSums_eq_changeInTurn,
    fun _ _ _ => marginal_eq_ok_iff⟩

/-- Preferences with a weight for one currency and none for any good. -/
def thrifty : Preferences :=
  ⟨some (.ofList [("FET", ⟨0x3ff0000000000000⟩)]), some .empty, some ⟨1, 1⟩, 100⟩

/-- A purchase of nothing, at a price and a fee. -/
def donation (amount fee : Amount) : Transaction :=
  ⟨.propose, "tx0", "me", "them", true, "FET", amount, fee, 0, .empty, "fetchai", .empty, none⟩

/-- An amount of one currency to be added. -/
def payment (a : Amount) : Adjustment := ⟨.insert .empty "FET" a, .empty⟩

theorem isOf_payment {amount fee a : Amount} (ha : a.toInt = -(amount.toInt + fee.toInt)) :
    (payment a).IsOf (donation amount fee) where
  amounts := by
    rw [payment, change_insert, ha]
    rfl
  goods := rfl

theorem exists_marginal_payment {a : Amount} {o o' : Ownership} (h : o.adjust (payment a) = .ok o') :
    ∃ y, thrifty.marginal o (some (payment a).goods) (some (payment a).amounts) = .ok y := by
  obtain ⟨amounts, goods, amounts', goods', rfl, -, -, rfl⟩ := Ownership.applyDeltas_eq_ok_iff.1 h
  exact ⟨_, marginal_adjustment_eq_ok_iff.2
    ⟨amounts', goods', _, _, _, _, h, ⟨rfl, rfl⟩, ⟨rfl, rfl⟩, rfl⟩⟩

theorem scoreChange_marginal_donation :
    let o := Ownership.ofHoldings (.ofList [("FET", 100)]) (.ofList [("apple", 3)])
    (thrifty.isInitialized = true ∧ o.isInitialized = true ∧ (payment (-11)).IsOf (donation 10 1)) ∧
      ∃ x y g c g' c', thrifty.scoreChange o (donation 10 1) = .ok x ∧
        thrifty.marginal o (some (payment (-11)).goods) (some (payment (-11)).amounts) = .ok y ∧
        x = changeOfSums g c g' c' ∧ y = changeInTurn g c g' c' := by
  intro o
  have hd : (payment (-11)).IsOf (donation 10 1) := isOf_payment (by decide)
  have hadjust : o.adjust (payment (-11)) =
      .ok (.ofHoldings (.ofList [("FET", 89)]) (.ofList [("apple", 3)])) := by decide +kernel
  obtain ⟨-, amounts, goods, -, hscored, -⟩ := scoreChange_marginal thrifty o (donation 10 1) rfl rfl
  obtain ⟨hiff, hpayable, hcomponents⟩ := hscored _ hd
  obtain ⟨y, hy⟩ := exists_marginal_payment hadjust
  obtain ⟨x, hx⟩ := hiff.2 ⟨hpayable.2 (by decide), y, hy⟩
  obtain ⟨_, _, g, c, g', c', -, -, -, -, hxsums, hyturn⟩ := hcomponents x y hx hy
  exact ⟨⟨rfl, rfl, hd⟩, x, y, g, c, g', c', hx, hy, hxsums, hyturn⟩

/-- A transaction is not always scored where its amounts are: what the buyer pays here is one more
than the greatest amount, though its negation is the least one. -/
theorem not_forall_scored_alike :
    ¬ ∀ (p : Preferences) (o : Ownership) (t : Transaction) (d : Adjustment),
      p.isInitialized = true → o.isInitialized = true → d.IsOf t →
      ((∃ x, p.scoreChange o t = .ok x) ↔
        ∃ y, p.marginal o (some d.goods) (some d.amounts) = .ok y) := by
  intro h
  let o := Ownership.ofHoldings (.ofList [("FET", 0)]) .empty
  have hd : (payment .minValue).IsOf (donation .greatest 1) := isOf_payment (by decide)
  have hadjust : o.adjust (payment .minValue) =
      .ok (.ofHoldings (.ofList [("FET", .minValue)]) .empty) := by decide +kernel
  obtain ⟨x, hx⟩ := (h thrifty o _ _ rfl rfl hd).2 (exists_marginal_payment hadjust)
  obtain ⟨_, _, _, _, _, _, hupdate, -⟩ := (scoreChange_eq_ok_iff rfl).1 hx
  have hrefused : o.update (donation .greatest 1) = .error (.overflow .buyerDelta) := by
    decide +kernel
  rw [hrefused] at hupdate
  cases hupdate

end Preferences

end Agent

end Bazaar
