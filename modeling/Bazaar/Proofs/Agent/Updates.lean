import Bazaar.Proofs.Agent.Holdings

/-!
Changes of what an agent owns, key by key. What stands against a transaction is told by the fault
that reports it (`Blocks`): holdings that are not set, or a figure beyond the range of amounts. Main
statement: a change is made in whole, by the exact sums, or something stands against it and nothing
is changed (`updates_made_in_whole`).
-/

namespace Bazaar

namespace Agent

theorem figure_eq_error_iff {f : Figure} {a? : Option Amount} {e : Fault} :
    figure f a? = .error e ↔ a? = none ∧ e = .overflow f := by
  cases a? <;> simp [figure, eq_comm]

theorem part_eq_error_iff {α : Type} {p : Part} {a? : Option α} {e : Fault} :
    part p a? = .error e ↔ a? = none ∧ e = .notInitialized p := by
  cases a? <;> simp [part, eq_comm]

end Agent

namespace Holdings

open SortedMap (heldIn heldIn_cons heldIn_eq_zero)

variable {h h' h'' : Holdings}

/-! ### Changes of holdings -/

/-- What is to be changed of holdings: how much is added under each key, among the integers, and
which keys there have to be. -/
structure Change where
  added : String → Int
  names : String → Prop

/-- **Holdings are changed**: every key holds the exact sum, and no key is lost or made up. -/
structure Changes (h : Holdings) (d : Change) (h' : Holdings) : Prop where
  held : ∀ k, (h'.held k).toInt = (h.held k).toInt + d.added k
  keys : ∀ k, k ∈ h'.keys ↔ k ∈ h.keys ∨ d.names k

/-- The change that adds holdings key by key. -/
def change (d : Holdings) : Change := ⟨fun k => (d.held k).toInt, (· ∈ d.keys)⟩

theorem changes_of_addAll {d : Holdings} (he : h.addAll d = .ok h') : h.Changes d.change h' := by
  obtain ⟨hheld, hkeys⟩ := adds_of_addEntries d.sorted he
  exact ⟨hheld, hkeys⟩

/-- What holdings hold and which keys they have is all there is to them. -/
theorem ext_held (hheld : ∀ k, h.held k = h'.held k) (hkeys : ∀ k, k ∈ h.keys ↔ k ∈ h'.keys) :
    h = h' := by
  refine SortedMap.ext_get? fun k => ?_
  simp only [get?_eq_ite, hheld, hkeys]

/-- A change has one outcome. -/
theorem Changes.unique {d : Change} (h₁ : h.Changes d h') (h₂ : h.Changes d h'') : h' = h'' := by
  refine ext_held (fun k => Int64.toInt_inj.1 ?_) fun k => ?_
  · rw [h₁.held, h₂.held]
  · rw [h₁.keys, h₂.keys]

/-! ### What stands against a change -/

theorem add_eq_error_iff {k : String} {delta : Amount} {f : Agent.Fault} :
    h.add k delta = .error f ↔ ¬ Amount.InRange ((h.held k).toInt + delta.toInt) ∧
      f = .overflow (.holding k) := by
  simp only [add, bind_eq_error_iff, Agent.figure_eq_error_iff, Amount.add?,
    Amount.ofInt?_eq_none_iff, pure, Except.pure, reduceCtorEq, and_false, exists_false, or_false]

/-- Entries that cannot be added are refused for a key whose sum leaves the range of amounts. -/
theorem exists_of_addEntries_eq_error {es : List (String × Amount)} {f : Agent.Fault}
    (hs : es.Pairwise (fun p q => p.1 < q.1)) (he : h.addEntries es = .error f) :
    ∃ k, f = .overflow (.holding k) ∧ ¬ Amount.InRange ((h.held k).toInt + heldIn k es) := by
  induction es generalizing h with
  | nil => cases he
  | cons e es ih =>
    obtain ⟨k, v⟩ := e
    obtain he | ⟨h₁, h₁', he⟩ := bind_eq_error_iff.1 he
    · obtain ⟨hk, hf⟩ := add_eq_error_iff.1 he
      refine ⟨k, hf, ?_⟩
      rw [heldIn_cons, if_pos rfl]
      exact hk
    · obtain ⟨a, -, rfl⟩ := add_eq_ok_iff.1 h₁'
      obtain ⟨l, hf, hl⟩ := ih (List.pairwise_cons.1 hs).2 he
      refine ⟨l, hf, ?_⟩
      rw [held_insert] at hl
      rw [heldIn_cons]
      split
      · -- the key of the first entry is not among the others, so its sum is the amount just put
        rename_i hlk
        rw [if_pos hlk, hlk, heldIn_eq_zero (find_eq_none_of_pairwise hs), Int.add_zero] at hl
        exact absurd (Amount.inRange_toInt a) hl
      · rename_i hlk
        rwa [if_neg hlk] at hl

end Holdings

/-! ### The changes of a transaction -/

namespace Transaction

/-- What a transaction changes of its sender's currencies. -/
def amountChange (t : Transaction) : Holdings.Change where
  added c := if c = t.currency then t.currencyChange else 0
  names c := c = t.currency

theorem added_amountChange (t : Transaction) (c : CurrencyId) :
    t.amountChange.added c = if c = t.currency then t.currencyChange else 0 := rfl

/-- What a transaction changes of its sender's holding of a good: a buyer gets the quantity, a
seller gives it up. -/
def quantityChange (t : Transaction) (g : GoodId) : Int :=
  if t.senderBuys then (t.quantities.held g).toInt else -(t.quantities.held g).toInt

/-- What a transaction changes of its sender's goods. -/
def goodChange (t : Transaction) : Holdings.Change where
  added := t.quantityChange
  names g := g ∈ t.quantities.keys

end Transaction

namespace Agent.Ownership

open SortedMap (heldIn heldIn_cons heldIn_nil)

variable {o o' : Ownership} {t : Transaction} {f : Fault}

theorem currencyDelta_eq_error (h : currencyDelta t = .error f) :
    (t.senderBuys = true ∧ f = .overflow .buyerDelta ∧
      (¬ Amount.InRange (t.amount.toInt + t.senderFee.toInt) ∨
        ¬ Amount.InRange (-(t.amount.toInt + t.senderFee.toInt)))) ∨
    (t.senderBuys = false ∧ f = .overflow .sellerDelta ∧
      ¬ Amount.InRange (t.amount.toInt - t.senderFee.toInt)) := by
  unfold currencyDelta at h
  split at h
  · rename_i hbuys
    obtain ⟨hnone, hf⟩ := figure_eq_error_iff.1 h
    refine .inl ⟨hbuys, hf, ?_⟩
    cases hdue : Amount.add? t.amount t.senderFee with
    | none => exact .inl (Amount.ofInt?_eq_none_iff.1 hdue)
    | some due =>
      rw [hdue] at hnone
      rw [← Amount.add?_eq_some_iff.1 hdue]
      exact .inr (Amount.ofInt?_eq_none_iff.1 hnone)
  · rename_i hsells
    obtain ⟨hnone, hf⟩ := figure_eq_error_iff.1 h
    exact .inr ⟨by simpa using hsells, hf, Amount.ofInt?_eq_none_iff.1 hnone⟩

/-- Only the least amount has no negation. -/
theorem neg?_eq_none_iff {a : Amount} : Amount.neg? a = none ↔ a = Int64.minValue := by
  rw [Amount.neg?, Amount.ofInt?_eq_none_iff, ← Int64.toInt_inj]
  have hrange := Amount.inRange_toInt a
  have hmin : Int64.minValue.toInt = -2 ^ 63 := rfl
  unfold Amount.InRange at *
  omega

theorem goodDeltas_eq_error (h : goodDeltas t = .error f) : t.senderBuys = false ∧
    ∃ g, t.quantities.get? g = some Int64.minValue ∧ f = .overflow (.goodDelta g) := by
  obtain ⟨⟨g, q⟩, hmem, he⟩ := exists_of_mapM_eq_error h
  obtain he | ⟨_, -, he⟩ := bind_eq_error_iff.1 he
  · unfold goodDelta at he
    split at he
    · cases he
    · rename_i hsells
      obtain ⟨hnone, hf⟩ := figure_eq_error_iff.1 he
      refine ⟨by simpa using hsells, g, ?_, hf⟩
      rw [← SortedMap.mem_entries_iff, ← neg?_eq_none_iff.1 hnone]
      exact hmem
  · cases he

theorem toInt_of_goodDelta {g : GoodId} {q delta : Amount} (h : goodDelta t g q = .ok delta) :
    delta.toInt = if t.senderBuys then q.toInt else -q.toInt := by
  unfold goodDelta at h
  split at h
  · rename_i hbuys
    cases h
    rw [if_pos hbuys]
  · rename_i hsells
    rw [if_neg hsells]
    exact Amount.ofInt?_eq_some_iff.1 (figure_eq_ok_iff.1 h)

/-- The changes of the goods, entry by entry. -/
theorem entries_of_mapM_goodDelta {es ds : List (GoodId × Amount)}
    (h : es.mapM (fun e => do return (e.1, ← goodDelta t e.1 e.2)) = .ok ds) :
    ds.map (·.1) = es.map (·.1) ∧
    ∀ g, heldIn g ds = if t.senderBuys then heldIn g es else -heldIn g es := by
  induction es generalizing ds with
  | nil =>
    cases h
    exact ⟨rfl, fun g => by simp⟩
  | cons e es ih =>
    obtain ⟨d, hd, rest, hrest, rfl⟩ := mapM_cons_eq_ok_iff.1 h
    obtain ⟨delta, hdelta, hpair⟩ := bind_eq_ok_iff.1 hd
    cases hpair
    obtain ⟨hkeys, hheld⟩ := ih hrest
    refine ⟨congrArg (e.1 :: ·) hkeys, fun g => ?_⟩
    rw [heldIn_cons, heldIn_cons, hheld, toInt_of_goodDelta hdelta]
    split <;> split <;> rfl

theorem pairwise_goodDeltas {deltas : List (GoodId × Amount)} (h : goodDeltas t = .ok deltas) :
    deltas.Pairwise (fun p q => p.1 < q.1) := by
  have hkeys := (entries_of_mapM_goodDelta h).1
  have hsorted := List.pairwise_map.2 t.quantities.sorted
  rw [← hkeys] at hsorted
  exact List.pairwise_map.1 hsorted

theorem changes_of_goodDeltas {deltas : List (GoodId × Amount)} {g g' : Holdings}
    (h : goodDeltas t = .ok deltas) (hg : g.addEntries deltas = .ok g') :
    g.Changes t.goodChange g' := by
  obtain ⟨hkeys, hheld⟩ := entries_of_mapM_goodDelta h
  obtain ⟨hsum, hnames⟩ := Holdings.adds_of_addEntries (pairwise_goodDeltas h) hg
  refine ⟨fun k => ?_, fun k => ?_⟩
  · rw [hsum, hheld]
    rfl
  · rw [hnames, hkeys]
    rfl

/-- A seller's quantities all have a negation if the changes of the goods are found. -/
theorem ne_minValue_of_goodDeltas {deltas : List (GoodId × Amount)}
    (h : goodDeltas t = .ok deltas) (hsells : t.senderBuys = false) (g : GoodId) :
    t.quantities.get? g ≠ some Int64.minValue := by
  intro hleast
  obtain ⟨_, he⟩ := exists_of_mapM_eq_ok h (SortedMap.mem_entries_iff.2 hleast)
  obtain ⟨delta, hdelta, -⟩ := bind_eq_ok_iff.1 he
  unfold goodDelta at hdelta
  rw [hsells, if_neg Bool.false_ne_true, neg?_eq_none_iff.2 rfl] at hdelta
  cases hdelta

/-! ### What stands against a transaction -/

/-- What is held of a good, zero if nothing is said of it. -/
def goodHeld (o : Ownership) (g : GoodId) : Int := ((o.goods?.getD .empty).held g).toInt

/-- **What stands against a transaction**, by the fault that says so: holdings that are not set, a
change of the currency or of a good that is no amount, or a sum that is none. -/
inductive Blocks (o : Ownership) (t : Transaction) : Fault → Prop
  | amounts (unset : o.amounts? = none) : Blocks o t (.notInitialized .amounts)
  | goods (unset : o.goods? = none) : Blocks o t (.notInitialized .goods)
  | due (buys : t.senderBuys = true)
    (beyond : ¬ Amount.InRange (t.amount.toInt + t.senderFee.toInt)) :
    Blocks o t (.overflow .buyerDelta)
  | payment (buys : t.senderBuys = true)
    (beyond : ¬ Amount.InRange (-(t.amount.toInt + t.senderFee.toInt))) :
    Blocks o t (.overflow .buyerDelta)
  | proceeds (sells : t.senderBuys = false)
    (beyond : ¬ Amount.InRange (t.amount.toInt - t.senderFee.toInt)) :
    Blocks o t (.overflow .sellerDelta)
  | quantity (sells : t.senderBuys = false) (g : GoodId)
    (least : t.quantities.get? g = some Int64.minValue) : Blocks o t (.overflow (.goodDelta g))
  | currency (beyond : ¬ Amount.InRange (o.currencyHeld t.currency + t.currencyChange)) :
    Blocks o t (.overflow (.holding t.currency))
  | good (g : GoodId) (beyond : ¬ Amount.InRange (o.goodHeld g + t.quantityChange g)) :
    Blocks o t (.overflow (.holding g))

/-- A transaction fails for what stands against it. -/
theorem blocks_of_update_eq_error (h : o.update t = .error f) : o.Blocks t f := by
  obtain h | ⟨delta, hdelta, h⟩ := bind_eq_error_iff.1 h
  · obtain ⟨hbuys, rfl, hdue | hpayment⟩ | ⟨hsells, rfl, hproceeds⟩ := currencyDelta_eq_error h
    · exact .due hbuys hdue
    · exact .payment hbuys hpayment
    · exact .proceeds hsells hproceeds
  obtain h | ⟨deltas, hdeltas, h⟩ := bind_eq_error_iff.1 h
  · obtain ⟨hsells, g, hleast, rfl⟩ := goodDeltas_eq_error h
    exact .quantity hsells g hleast
  obtain h | ⟨a, ha, h⟩ := bind_eq_error_iff.1 h
  · obtain ⟨hunset, rfl⟩ := part_eq_error_iff.1 h
    exact .amounts hunset
  obtain h | ⟨a', -, h⟩ := bind_eq_error_iff.1 h
  · obtain ⟨hbeyond, rfl⟩ := Holdings.add_eq_error_iff.1 h
    refine .currency ?_
    rwa [currencyHeld, part_eq_ok_iff.1 ha, Option.getD_some, ← toInt_of_currencyDelta hdelta]
  obtain h | ⟨g, hg, h⟩ := bind_eq_error_iff.1 h
  · obtain ⟨hunset, rfl⟩ := part_eq_error_iff.1 h
    exact .goods hunset
  obtain h | ⟨g', -, h⟩ := bind_eq_error_iff.1 h
  · obtain ⟨k, rfl, hbeyond⟩ :=
      Holdings.exists_of_addEntries_eq_error (pairwise_goodDeltas hdeltas) h
    refine .good k ?_
    rw [(entries_of_mapM_goodDelta hdeltas).2] at hbeyond
    rwa [goodHeld, part_eq_ok_iff.1 hg, Option.getD_some]
  · cases h

/-- Nothing stands against a transaction that is carried out. -/
theorem not_blocks_of_update (h : o.update t = .ok o') : ¬ o.Blocks t f := by
  obtain ⟨delta, deltas, a, g, a', g', hdelta, hdeltas, rfl, ha', hg', -⟩ := update_eq_ok_iff.1 h
  intro hblocks
  cases hblocks with
  | amounts unset => cases unset
  | goods unset => cases unset
  | due buys beyond =>
    rw [currencyDelta, if_pos buys, figure_eq_ok_iff] at hdelta
    obtain ⟨due, hdue, -⟩ := Option.bind_eq_some_iff.1 hdelta
    rw [← Amount.add?_eq_some_iff.1 hdue] at beyond
    exact beyond (Amount.inRange_toInt due)
  | payment buys beyond =>
    have hchange := toInt_of_currencyDelta hdelta
    rw [Transaction.currencyChange, if_pos buys] at hchange
    rw [← hchange] at beyond
    exact beyond (Amount.inRange_toInt delta)
  | proceeds sells beyond =>
    have hchange := toInt_of_currencyDelta hdelta
    rw [Transaction.currencyChange, sells, if_neg Bool.false_ne_true] at hchange
    rw [← hchange] at beyond
    exact beyond (Amount.inRange_toInt delta)
  | quantity sells g least => exact ne_minValue_of_goodDeltas hdeltas sells g least
  | currency beyond =>
    obtain ⟨b, hb, -⟩ := Holdings.add_eq_ok_iff.1 ha'
    rw [toInt_of_currencyDelta hdelta] at hb
    exact beyond (hb ▸ Amount.inRange_toInt b)
  | good k beyond =>
    have hk := (changes_of_goodDeltas hdeltas hg').held k
    exact beyond (hk ▸ Amount.inRange_toInt (g'.held k))

/-! ### Changes of both holdings -/

/-- **What is owned is changed**, the amounts by one change and the goods by another. -/
def Changes (o : Ownership) (amounts goods : Holdings.Change) (o' : Ownership) : Prop :=
  ∃ a g a' g', o = .ofHoldings a g ∧ o' = .ofHoldings a' g' ∧ a.Changes amounts a' ∧
    g.Changes goods g'

theorem changes_of_currencyDelta {delta : Amount} {a a' : Holdings}
    (h : currencyDelta t = .ok delta) (ha : a.add t.currency delta = .ok a') :
    a.Changes t.amountChange a' := by
  obtain ⟨b, hb, rfl⟩ := Holdings.add_eq_ok_iff.1 ha
  refine ⟨fun c => ?_, fun c => Holdings.mem_keys_insert⟩
  rw [Holdings.held_insert, Transaction.added_amountChange]
  by_cases hc : c = t.currency
  · rw [if_pos hc, if_pos hc, hb, toInt_of_currencyDelta h, hc]
  · rw [if_neg hc, if_neg hc, Int.add_zero]

theorem changes_of_update (h : o.update t = .ok o') :
    o.Changes t.amountChange t.goodChange o' := by
  obtain ⟨delta, deltas, a, g, a', g', hdelta, hdeltas, ho, ha', hg', ho'⟩ := update_eq_ok_iff.1 h
  exact ⟨a, g, a', g', ho, ho', changes_of_currencyDelta hdelta ha',
    changes_of_goodDeltas hdeltas hg'⟩

section ApplyDeltas

variable {amounts goods : Holdings}

theorem changes_of_applyDeltas (h : o.applyDeltas amounts goods = .ok o') :
    o.Changes amounts.change goods.change o' := by
  obtain ⟨a, g, a', g', ho, ha', hg', ho'⟩ := applyDeltas_eq_ok_iff.1 h
  exact ⟨a, g, a', g', ho, ho', Holdings.changes_of_addAll ha', Holdings.changes_of_addAll hg'⟩

/-- **What stands against an addition** of amounts and goods, by the fault that says so. -/
inductive Bars (o : Ownership) (amounts goods : Holdings) : Fault → Prop
  | amounts (unset : o.amounts? = none) : Bars o amounts goods (.notInitialized .amounts)
  | goods (unset : o.goods? = none) : Bars o amounts goods (.notInitialized .goods)
  | currency (c : CurrencyId)
    (beyond : ¬ Amount.InRange (o.currencyHeld c + (amounts.held c).toInt)) :
    Bars o amounts goods (.overflow (.holding c))
  | good (g : GoodId) (beyond : ¬ Amount.InRange (o.goodHeld g + (goods.held g).toInt)) :
    Bars o amounts goods (.overflow (.holding g))

theorem bars_of_applyDeltas_eq_error (h : o.applyDeltas amounts goods = .error f) :
    o.Bars amounts goods f := by
  obtain h | ⟨a, ha, h⟩ := bind_eq_error_iff.1 h
  · obtain ⟨hunset, rfl⟩ := part_eq_error_iff.1 h
    exact .amounts hunset
  obtain h | ⟨a', -, h⟩ := bind_eq_error_iff.1 h
  · obtain ⟨c, rfl, hbeyond⟩ := Holdings.exists_of_addEntries_eq_error amounts.sorted h
    refine .currency c ?_
    rwa [currencyHeld, part_eq_ok_iff.1 ha]
  obtain h | ⟨g, hg, h⟩ := bind_eq_error_iff.1 h
  · obtain ⟨hunset, rfl⟩ := part_eq_error_iff.1 h
    exact .goods hunset
  obtain h | ⟨g', -, h⟩ := bind_eq_error_iff.1 h
  · obtain ⟨k, rfl, hbeyond⟩ := Holdings.exists_of_addEntries_eq_error goods.sorted h
    refine .good k ?_
    rwa [goodHeld, part_eq_ok_iff.1 hg]
  · cases h

theorem not_bars_of_applyDeltas (h : o.applyDeltas amounts goods = .ok o') :
    ¬ o.Bars amounts goods f := by
  obtain ⟨a, g, a', g', rfl, -, hamounts, hgoods⟩ := changes_of_applyDeltas h
  intro hbars
  cases hbars with
  | amounts unset => cases unset
  | goods unset => cases unset
  | currency c beyond =>
    have hc := hamounts.held c
    exact beyond (hc ▸ Amount.inRange_toInt (a'.held c))
  | good k beyond =>
    have hk := hgoods.held k
    exact beyond (hk ▸ Amount.inRange_toInt (g'.held k))

end ApplyDeltas

/-! ### Changes in place -/

theorem run_updateInPlace (o : Ownership) (t : Transaction) :
    (updateInPlace t).run o = inPlace o ((·, ()) <$> o.update t) := by
  simp only [update, map_bind]
  refine run_ofExcept_bind fun delta => ?_
  refine run_ofExcept_bind fun deltas => ?_
  rw [run_get_bind]
  refine run_ofExcept_bind fun amounts => ?_
  refine run_ofExcept_bind fun amounts' => ?_
  rw [run_get_bind]
  refine run_ofExcept_bind fun goods => ?_
  exact run_ofExcept_bind fun goods' => rfl

theorem run_updateInPlace_eq_ok_iff {u : Unit} :
    (updateInPlace t).run o = .ok u o' ↔ o.update t = .ok o' := by
  simp only [run_updateInPlace, inPlace_eq_ok_iff, map_eq_ok_iff, Prod.mk.injEq, and_true,
    exists_eq_right]

theorem run_updateInPlace_eq_error_iff :
    (updateInPlace t).run o = .error f o' ↔ o.update t = .error f ∧ o' = o := by
  rw [run_updateInPlace, inPlace_eq_error_iff, map_eq_error_iff]

/-- **Every change is made in whole or not at all.** Whatever an agent owns, also with only one of
the two holdings set: a transaction carried out in place fails exactly if something stands against
it, by the fault that says so, and then nothing is changed; if it succeeds, both holdings are
changed by the exact sums. The same holds of amounts and goods that are added key by key. -/
theorem updates_made_in_whole (o : Ownership) :
    (∀ t, ((∃ f o', (updateInPlace t).run o = .error f o') ↔ ∃ f, o.Blocks t f) ∧
      (∀ f o', (updateInPlace t).run o = .error f o' → o.Blocks t f ∧ o' = o) ∧
      ∀ u o', (updateInPlace t).run o = .ok u o' → o.Changes t.amountChange t.goodChange o') ∧
    ∀ amounts goods,
      ((∃ f, o.applyDeltas amounts goods = .error f) ↔ ∃ f, o.Bars amounts goods f) ∧
      (∀ f, o.applyDeltas amounts goods = .error f → o.Bars amounts goods f) ∧
      ∀ o', o.applyDeltas amounts goods = .ok o' → o.Changes amounts.change goods.change o' := by
  simp only [run_updateInPlace_eq_error_iff, run_updateInPlace_eq_ok_iff, exists_and_left,
    exists_eq, and_true]
  refine ⟨fun t => ⟨?_, fun f o' h => ?_, fun _ o' => changes_of_update⟩,
    fun amounts goods => ⟨?_, fun f => bars_of_applyDeltas_eq_error, fun o' =>
      changes_of_applyDeltas⟩⟩
  · exact exists_error_iff blocks_of_update_eq_error not_blocks_of_update
  · exact ⟨blocks_of_update_eq_error h.1, h.2⟩
  · exact exists_error_iff bars_of_applyDeltas_eq_error not_bars_of_applyDeltas

end Agent.Ownership

end Bazaar
