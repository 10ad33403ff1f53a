import Bazaar.Proofs.Agent.SharedLedger

/-!
When an agent accepts a transaction. It vets and settles with separate computations of what is to
be paid, which agree because the figures of a consistent transaction are not negative and all
balances together fit into the supply. Main statement: the exact condition of acceptance
(`handle_isAccepted_iff`).
-/

namespace Bazaar.Agent.State

/-! ### The conditions -/

/-- The transaction does not lower the score, or there is no score yet. -/
def MeetsScore (s : State) (t : Transaction) : Prop :=
  s.ownership.isInitialized = false ∨ s.preferences.isInitialized = false ∨
    ∃ x, s.preferences.scoreChange s.ownership t = .ok x ∧ 0 ≤ x

/-- **The agent can pay**: it has an account on the ledger that the transaction names, which holds
the amount and the agent's fee; the counterparty's fee is no more than the amount; and the
counterparty is not the agent's own account. -/
def CanPay (w : Wallet) (s : State) (t : Transaction) : Prop :=
  ∃ i b, w.identity? t.ledger = some i ∧ i.ledger = s.ledger.id ∧
    s.ledger.balance? i.address = some b ∧ t.amount.toInt + t.senderFee.toInt ≤ b.toInt ∧
    t.counterpartyFee.toInt ≤ t.amount.toInt ∧ t.counterparty ≠ i.address

variable {w : Wallet} {s : State} {t : Transaction}

theorem isWorthwhile_iff : s.isWorthwhile t = true ↔ s.MeetsScore t := by
  unfold isWorthwhile MeetsScore
  cases s.ownership.isInitialized <;> cases s.preferences.isInitialized <;> simp
  cases s.preferences.scoreChange s.ownership t <;> simp

theorem nonneg_of_consistent (h : t.inconsistency? = none) :
    0 ≤ t.amount.toInt ∧ 0 ≤ t.senderFee.toInt ∧ 0 ≤ t.counterpartyFee.toInt := by
  unfold Transaction.inconsistency? at h
  simp only [← Amount.not_neg_iff]
  split_ifs at h with _ _ ha hs hc
  exact ⟨ha, hs, hc⟩

/-! ### Vetting -/

theorem payable?_eq_some_iff {due : Amount} :
    payable? t = some due ↔ (netAmount? t).isSome ∧ (bothFees? t).isSome ∧
      due.toInt = t.amount.toInt + t.senderFee.toInt := by
  unfold payable?
  cases hn : netAmount? t with
  | none => simp
  | some net =>
    cases hf : bothFees? t with
    | none => simp
    | some fees =>
      have hnet := netAmount?_eq_some_iff.1 hn
      have hfees := bothFees?_eq_some_iff.1 hf
      simp only [Option.bind_eq_bind, Option.bind_some, Amount.add?_eq_some_iff,
        Option.isSome_some, true_and]
      omega

theorem isAffordable_onChain (h : t.isOffChain = false) :
    s.isAffordable w t = true ↔ ∃ i due b, w.identity? t.ledger = some i ∧
      payable? t = some due ∧ i.ledger = s.ledger.id ∧ s.ledger.balance? i.address = some b ∧
      due.toInt ≤ b.toInt := by
  rw [isAffordable, h, Bool.false_or]
  constructor
  · intro ha
    split at ha
    · rename_i i due hi hd
      split at ha
      · rename_i b hb
        obtain ⟨hid, hb⟩ := Ledger.tokenBalance_eq_ok_iff.1 hb
        exact ⟨i, due, b, hi, hd, hid, hb, Amount.le_iff.1 (of_decide_eq_true ha)⟩
      · cases ha
    · cases ha
  · rintro ⟨i, due, b, hi, hd, hid, hb, hle⟩
    have hb' := Ledger.tokenBalance_eq_ok_iff.2 ⟨hid, hb⟩
    simp [hi, hd, hb', Amount.le_iff.2 hle]

/-! ### Settling what was vetted -/

/-- Every figure of a consistent transaction that can be paid fits: none of them is negative and
none exceeds the balance from which it is paid. -/
theorem figures_of_canPay (hc : t.inconsistency? = none) (h : s.CanPay w t) :
    ∃ net fees due : Amount, netAmount? t = some net ∧ bothFees? t = some fees ∧
      payable? t = some due ∧ Amount.add? net fees = some due := by
  obtain ⟨ha, hs, hf⟩ := nonneg_of_consistent hc
  obtain ⟨i, b, -, -, -, hb, hfee, -⟩ := h
  obtain ⟨net, hnet⟩ := Amount.exists_toInt_of_le (a := b)
    (n := t.amount.toInt - t.counterpartyFee.toInt) (by omega) (by omega)
  obtain ⟨fees, hfees⟩ := Amount.exists_toInt_of_le (a := b)
    (n := t.senderFee.toInt + t.counterpartyFee.toInt) (by omega) (by omega)
  obtain ⟨due, hdue⟩ := Amount.exists_toInt_of_le (a := b)
    (n := t.amount.toInt + t.senderFee.toInt) (by omega) hb
  have hn := netAmount?_eq_some_iff.2 hnet
  have hf := bothFees?_eq_some_iff.2 hfees
  refine ⟨net, fees, due, hn, hf, payable?_eq_some_iff.2 ⟨?_, ?_, hdue⟩,
    Amount.add?_eq_some_iff.2 (by omega)⟩
  · rw [hn, Option.isSome_some]
  · rw [hf, Option.isSome_some]

theorem isAffordable_of_canPay (ht : t.isOffChain = false) (hc : t.inconsistency? = none)
    (h : s.CanPay w t) : s.isAffordable w t = true := by
  obtain ⟨net, fees, due, -, -, hdue, -⟩ := figures_of_canPay hc h
  obtain ⟨i, b, hi, hid, hb, hle, -, -⟩ := h
  have hd := (payable?_eq_some_iff.1 hdue).2.2
  exact (isAffordable_onChain ht).2 ⟨i, due, b, hi, hdue, hid, hb, by omega⟩

theorem exists_settle?_of_canPay (hl : s.ledger.Sound) (ht : t.isOffChain = false)
    (hc : t.inconsistency? = none) (h : s.CanPay w t) : ∃ r, s.settle? w t = some r := by
  obtain ⟨net, fees, due, hn, hf, -, -⟩ := figures_of_canPay hc h
  obtain ⟨ha, hs, hcf⟩ := nonneg_of_consistent hc
  obtain ⟨i, b, hi, hid, hb, hle, hfee, hne⟩ := h
  have hnet := netAmount?_eq_some_iff.1 hn
  have hfees := bothFees?_eq_some_iff.1 hf
  have hheld := Ledger.held_of_balance? hb
  -- the payer holds what it pays, and books in order have room for what the payee gets
  obtain ⟨l, hp⟩ := hl.exists_posts
    (t := ⟨s.ledger.nextDigest, i.ledger, i.address, t.counterparty, net, fees⟩) hne.symm
    (by simp only; omega) (by simp only; omega) (by simp only; omega)
  have hok := Ledger.transfer_eq_ok_iff.2 ⟨hid, hid, hp, rfl⟩
  exact ⟨_, (settle?_onChain ht).2 ⟨i, net, fees, l, hi, hn, hf, hok, rfl⟩⟩

theorem canPay_of_settle? {r : State × Digest} (ht : t.isOffChain = false)
    (ha : s.isAffordable w t = true) (hs : s.settle? w t = some r) : s.CanPay w t := by
  obtain ⟨i, net, fees, l, hi, hn, hf, hok, -⟩ := (settle?_onChain ht).1 hs
  obtain ⟨j, due, b, hj, hd, hid, hb, hle⟩ := (isAffordable_onChain ht).1 ha
  obtain rfl : i = j := Option.some.inj (hi.symm.trans hj)
  obtain ⟨-, -, hp, -⟩ := Ledger.transfer_eq_ok_iff.1 hok
  have hnet := netAmount?_eq_some_iff.1 hn
  have hdue := (payable?_eq_some_iff.1 hd).2.2
  -- that the counterparty's fee is no more than the amount is checked by the ledger alone
  have hnn : 0 ≤ net.toInt := hp.amount_nonneg
  exact ⟨i, b, hi, hid, hb, by omega, by omega, fun he => hp.distinct he.symm⟩

/-! ### Acceptance -/

/-- A transaction is rejected, or accepted with a digest; nothing else in it changes. -/
theorem decide_snd (w : Wallet) (s : State) (t : Transaction) :
    (s.decide w t).2 = t.respond .reject none ∨
      ∃ d, (s.decide w t).2 = t.respond .accept (some d) := by
  unfold decide
  split
  · exact .inl rfl
  · split
    · split
      · exact .inr ⟨_, rfl⟩
      · exact .inl rfl
    · exact .inl rfl

theorem decide_accept_iff (w : Wallet) (s : State) (t : Transaction) :
    (s.decide w t).2.performative = .accept ↔
      t.inconsistency? = none ∧ s.isAcceptable w t = true ∧ ∃ r, s.settle? w t = some r := by
  unfold decide
  cases hc : t.inconsistency? with
  | some c => simp [Transaction.respond]
  | none =>
    cases ha : s.isAcceptable w t with
    | false => simp [Transaction.respond]
    | true => cases hs : s.settle? w t <;> simp [Transaction.respond]

/-- What is accepted on a ledger was vetted, and is posted there. -/
theorem exists_posts_of_accept (ht : t.isOffChain = false)
    (ha : (s.decide w t).2.performative = .accept) :
    s.MeetsScore t ∧ ∃ r, Records w t r ∧ s.ledger.Posts r (s.decide w t).1.ledger := by
  obtain ⟨hc, hacceptable, ⟨s', d⟩, hs⟩ := (decide_accept_iff w s t).1 ha
  obtain ⟨hworth, -⟩ := Bool.and_eq_true_iff.1 hacceptable
  obtain ⟨r, hr, hp, -⟩ := posts_of_settle? ht hs
  have hdecide : (s.decide w t).1 = s' := by simp [decide, hc, hacceptable, hs]
  rw [hdecide]
  exact ⟨isWorthwhile_iff.1 hworth, r, hr, hp⟩

theorem decide_accept_iff_canPay (hl : s.ledger.Sound) :
    (s.decide w t).2.performative = .accept ↔
      t.inconsistency? = none ∧ s.MeetsScore t ∧ (t.isOffChain = true ∨ s.CanPay w t) := by
  rw [decide_accept_iff, isAcceptable, Bool.and_eq_true, isWorthwhile_iff]
  cases ht : t.isOffChain with
  | true => simp [isAffordable, ht, settle?_offChain]
  | false =>
    simp only [Bool.false_eq_true, false_or]
    constructor
    · rintro ⟨hc, ⟨hw, ha⟩, r, hs⟩
      exact ⟨hc, hw, canPay_of_settle? ht ha hs⟩
    · rintro ⟨hc, hw, hp⟩
      exact ⟨hc, ⟨hw, isAffordable_of_canPay ht hc hp⟩, exists_settle?_of_canPay hl ht hc hp⟩

theorem handle_transaction (w : Wallet) (s : State) (t : Transaction) :
    s.handle w (.ofBody (.transaction t)) = ((s.decide w t).1, .answered (s.decide w t).2) := by
  simp [handle, Envelope.isInternal, Envelope.ofBody]

/-- A ledger does not refuse for want of balance what the agent found that it can pay. -/
theorem transfer_ne_insufficientBalance {i : Identity} {net fees : Amount}
    (ht : t.isOffChain = false) (ha : s.isAffordable w t = true)
    (hi : w.identity? t.ledger = some i) (hn : netAmount? t = some net)
    (hf : bothFees? t = some fees) (a : Address) (required available : Amount) :
    s.ledger.transfer i.ledger i t.counterparty net fees ≠
      .error (.insufficientBalance a required available) := by
  intro h
  obtain ⟨j, due, b, hj, hd, -, hb, hle⟩ := (isAffordable_onChain ht).1 ha
  obtain rfl : i = j := Option.some.inj (hi.symm.trans hj)
  have hlt := Ledger.transfer_eq_insufficientBalance h
  have hheld := Ledger.held_of_balance? hb
  have hnet := netAmount?_eq_some_iff.1 hn
  have hfees := bothFees?_eq_some_iff.1 hf
  have hdue := (payable?_eq_some_iff.1 hd).2.2
  omega

/-- What the counterparty gets by a settlement fits into its balance. -/
theorem exists_credit_of_canPay (hl : s.ledger.Sound) (ht : t.isOffChain = false)
    (hc : t.inconsistency? = none) (h : s.CanPay w t) {net : Amount}
    (hn : netAmount? t = some net) :
    ∃ c, Amount.add? ((s.ledger.balance? t.counterparty).getD 0) net = some c := by
  obtain ⟨⟨s', d⟩, hs⟩ := exists_settle?_of_canPay hl ht hc h
  obtain ⟨r, hr, hp, -⟩ := posts_of_settle? ht hs
  obtain ⟨-, payee, -, hpayee, -⟩ := hp.books
  have hnet := netAmount?_eq_some_iff.1 hn
  have hamount := hr.amount
  rw [hr.payee, Ledger.held] at hpayee
  exact ⟨payee, Amount.add?_eq_some_iff.2 (by omega)⟩

/-- **The exact condition of acceptance**, on a ledger after any mints and transfers and for any
wallet and any state of the agent. A transaction is accepted just if it is consistent, does not
lower the score and settles on no ledger or can be paid. No figure of such a transaction leaves
the range, neither when it is vetted nor when it is settled; and whatever was found to be
affordable, the ledger does not refuse for want of balance. -/
theorem handle_isAccepted_iff (id : LedgerId) (drawn : Nat → Digest) (rs : List Ledger.Request)
    (w : Wallet) (s₀ : State) (t : Transaction) :
    let s := s₀.withLedger (Ledger.serveAll (.new id drawn) rs)
    ((s.handle w (.ofBody (.transaction t))).2.isAccepted = true ↔
      t.inconsistency? = none ∧ s.MeetsScore t ∧ (t.isOffChain = true ∨ s.CanPay w t)) ∧
    (t.isOffChain = false → t.inconsistency? = none → s.CanPay w t →
      ∃ net fees due credit, netAmount? t = some net ∧ bothFees? t = some fees ∧
        payable? t = some due ∧ Amount.add? net fees = some due ∧
        Amount.add? ((s.ledger.balance? t.counterparty).getD 0) net = some credit) ∧
    (t.isOffChain = false → s.isAffordable w t = true → ∀ i net fees,
      w.identity? t.ledger = some i → netAmount? t = some net → bothFees? t = some fees →
      ∀ a required available, s.ledger.transfer i.ledger i t.counterparty net fees ≠
        .error (.insufficientBalance a required available)) := by
  intro s
  have hl : s.ledger.Sound := Ledger.sound_serveAll (.new id drawn) rs
  refine ⟨?_, fun ht hc hp => ?_, fun ht ha i net fees hi hn hf => ?_⟩
  · rw [handle_transaction, ← decide_accept_iff_canPay hl]
    exact beq_iff_eq
  · obtain ⟨net, fees, due, hn, hf, hd, htotal⟩ := figures_of_canPay hc hp
    obtain ⟨credit, hcredit⟩ := exists_credit_of_canPay hl ht hc hp hn
    exact ⟨net, fees, due, credit, hn, hf, hd, htotal, hcredit⟩
  · exact transfer_ne_insufficientBalance ht ha hi hn hf

end Bazaar.Agent.State
