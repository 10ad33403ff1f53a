import Bazaar.Ledger
import Bazaar.Proofs.Amount
import Bazaar.Proofs.Except

/-!
What a ledger does with a request: a mint and a transfer are described by what they ask for and by
the books they leave. Main statement: a transfer is carried out exactly when it can be posted, and
then it posts just itself (`transfer_eq_ok_iff`).
-/

namespace Bazaar.Ledger

/-! ### Figures -/

@[simp] theorem figure_eq_ok_iff {f : Figure} {o : Option Amount} {a : Amount} :
    figure f o = .ok a ↔ o = some a := by
  cases o <;> simp [figure]

theorem checkId_eq_ok_iff {l : Ledger} {id : LedgerId} {u : Unit} :
    l.checkId id = .ok u ↔ id = l.id := by
  unfold checkId
  split <;> simp_all

theorem tokenBalance_eq_ok_iff {l : Ledger} {id : LedgerId} {a : Address} {b : Amount} :
    l.tokenBalance id a = .ok b ↔ id = l.id ∧ l.balance? a = some b := by
  simp only [tokenBalance, bind_eq_ok_iff, checkId_eq_ok_iff]
  cases l.balance? a <;> simp [throw, throwThe, MonadExceptOf.throw, pure, Except.pure]

/-- What an address holds as an integer, zero if it has no account. -/
def held (l : Ledger) (a : Address) : Int := ((l.balance? a).getD 0).toInt

/-! ### Posting a transfer -/

/-- The ledger after a transfer that leaves the payer and the payee with the given balances. -/
def withPosted (l : Ledger) (t : Transfer) (payer payee : Amount) : Ledger :=
  { l with
    balances := (l.balances.insert t.payer payer).insert t.payee payee
    log := l.log ++ [t] }

/-- **A transfer is posted**: it has two parties and no negative figure, the payer holds what it
pays, and the books after it show the payment and nothing else. -/
structure Posts (l : Ledger) (t : Transfer) (l' : Ledger) : Prop where
  distinct : t.payer ≠ t.payee
  amount_nonneg : 0 ≤ t.amount.toInt
  fee_nonneg : 0 ≤ t.fee.toInt
  covered : t.amount.toInt + t.fee.toInt ≤ l.held t.payer
  books : ∃ payer payee : Amount,
    payer.toInt = l.held t.payer - (t.amount.toInt + t.fee.toInt) ∧
    payee.toInt = l.held t.payee + t.amount.toInt ∧ l' = l.withPosted t payer payee

namespace Posts

variable {l l' : Ledger} {t : Transfer}

theorem log_eq (h : l.Posts t l') : l'.log = l.log ++ [t] := by
  obtain ⟨_, _, -, -, rfl⟩ := h.books
  rfl

theorem drawn_eq (h : l.Posts t l') : l'.drawn = l.drawn := by
  obtain ⟨_, _, -, -, rfl⟩ := h.books
  rfl

theorem held_payer (h : l.Posts t l') :
    l'.held t.payer = l.held t.payer - (t.amount.toInt + t.fee.toInt) := by
  obtain ⟨payer, payee, hp, -, rfl⟩ := h.books
  simp [held, balance?, withPosted, h.distinct, hp]

theorem held_payee (h : l.Posts t l') : l'.held t.payee = l.held t.payee + t.amount.toInt := by
  obtain ⟨payer, payee, -, hq, rfl⟩ := h.books
  simp [held, balance?, withPosted, hq]

theorem balance?_other (h : l.Posts t l') {a : Address} (hp : a ≠ t.payer) (hq : a ≠ t.payee) :
    l'.balance? a = l.balance? a := by
  obtain ⟨payer, payee, -, -, rfl⟩ := h.books
  simp [balance?, withPosted, hp, hq]

end Posts

/-! ### Requests -/

theorem mint_eq_ok_iff {l l' : Ledger} {a : Address} {amount b : Amount} :
    l.mint a amount = .ok (l', b) ↔ 0 ≤ amount.toInt ∧ b.toInt = l.held a + amount.toInt ∧
      ∃ minted : Amount, minted.toInt = l.minted.toInt + amount.toInt ∧
        l' = { l with minted, balances := l.balances.insert a b } := by
  unfold mint
  by_cases h : amount < 0
  · have hn := Amount.neg_iff.1 h
    simp only [h, if_true]
    constructor
    · intro h'
      cases h'
    · rintro ⟨h₀, -⟩
      omega
  · have hn := Amount.not_neg_iff.1 h
    simp only [h, if_false, bind_eq_ok_iff, figure_eq_ok_iff, Amount.add?_eq_some_iff]
    constructor
    · rintro ⟨minted, hm, balance, hb, he⟩
      cases he
      exact ⟨hn, hb, minted, hm, rfl⟩
    · rintro ⟨-, hb, minted, hm, rfl⟩
      exact ⟨minted, hm, b, hb, rfl⟩

theorem check_eq_ok_iff {id : LedgerId} {payer payee : Address} {amount fee : Amount}
    {digest : Digest} {t : Transfer} :
    Draft.check ⟨id, some payer, some payee, some amount, fee⟩ digest = .ok t ↔
      0 ≤ amount.toInt ∧ 0 ≤ fee.toInt ∧ payer ≠ payee ∧
        t = ⟨digest, id, payer, payee, amount, fee⟩ := by
  simp only [Draft.check, Draft.entry, bind_eq_ok_iff, Except.ok.injEq, exists_eq_left',
    ← Amount.not_neg_iff]
  by_cases ha : amount < 0
  · simp [ha, throw, throwThe, MonadExceptOf.throw]
  · by_cases hf : fee < 0
    · simp [ha, hf, throw, throwThe, MonadExceptOf.throw]
    · by_cases hp : payer = payee
      · simp [ha, hf, hp, throw, throwThe, MonadExceptOf.throw]
      · simp [ha, hf, hp, pure, Except.pure, eq_comm]

theorem settle_eq_ok_iff {l l' : Ledger} {t : Transfer} {d : Digest} (hp : t.payer ≠ t.payee)
    (ha : 0 ≤ t.amount.toInt) (hf : 0 ≤ t.fee.toInt) :
    l.settle t = .ok (l', d) ↔ l.Posts t l' ∧ d = t.digest := by
  simp only [settle, bind_eq_ok_iff, figure_eq_ok_iff, Transfer.total?, Amount.add?_eq_some_iff]
  constructor
  · rintro ⟨required, hr, h⟩
    split at h
    · cases h
    · rename_i hlt
      have hle : required.toInt ≤ l.held t.payer := Int.not_lt.1 fun hn => hlt (Amount.lt_iff.2 hn)
      simp only [bind_eq_ok_iff, figure_eq_ok_iff, Amount.add?_eq_some_iff,
        Amount.sub?_eq_some_iff] at h
      obtain ⟨payer, hpayer, payee, hpayee, he⟩ := h
      cases he
      exact ⟨⟨hp, ha, hf, hr ▸ hle, payer, payee, hr ▸ hpayer, hpayee, rfl⟩, rfl⟩
  · rintro ⟨h, rfl⟩
    obtain ⟨payer, payee, hpayer, hpayee, rfl⟩ := h.books
    -- what is required lies between zero and a balance, so it is an amount
    obtain ⟨required, hr⟩ := Amount.exists_toInt_of_le (by omega) h.covered
    have hlt : ¬ (l.balance? t.payer).getD 0 < required := fun hlt => by
      have := Amount.lt_iff.1 hlt
      have := h.covered
      unfold held at this
      omega
    refine ⟨required, hr, ?_⟩
    simp only [hlt, if_false, bind_eq_ok_iff, figure_eq_ok_iff, Amount.add?_eq_some_iff,
      Amount.sub?_eq_some_iff]
    exact ⟨payer, hr ▸ hpayer, payee, hpayee, rfl⟩

/-- **A transfer is carried out** exactly when it names this ledger twice and can be posted under
the next digest, which is the answer. -/
theorem transfer_eq_ok_iff {l l' : Ledger} {id : LedgerId} {payer : Identity} {payee : Address}
    {amount fee : Amount} {d : Digest} :
    l.transfer id payer payee amount fee = .ok (l', d) ↔
      id = l.id ∧ payer.ledger = l.id ∧
        l.Posts ⟨l.nextDigest, id, payer.address, payee, amount, fee⟩ l' ∧ d = l.nextDigest := by
  simp only [transfer, bind_eq_ok_iff, checkId_eq_ok_iff, check_eq_ok_iff]
  constructor
  · rintro ⟨_, hid, _, hpayer, t, ⟨ha, hf, hp, rfl⟩, h⟩
    let t : Transfer := ⟨l.nextDigest, id, payer.address, payee, amount, fee⟩
    have hs : l.Posts t l' ∧ d = t.digest := (settle_eq_ok_iff hp ha hf).1 h
    exact ⟨hid, hpayer, hs⟩
  · rintro ⟨hid, hpayer, h, hd⟩
    have ha := h.amount_nonneg
    have hf := h.fee_nonneg
    exact ⟨(), hid, (), hpayer, _, ⟨ha, hf, h.distinct, rfl⟩,
      (settle_eq_ok_iff h.distinct ha hf).2 ⟨h, hd⟩⟩

/-! ### Refusals -/

theorem checkId_eq_error_iff {l : Ledger} {id : LedgerId} {r : Refusal} :
    l.checkId id = .error r ↔ id ≠ l.id ∧ r = .unknownLedger id := by
  unfold checkId
  split <;> simp_all [eq_comm]

theorem check_eq_error_iff {id : LedgerId} {payer payee : Address} {amount fee : Amount}
    {digest : Digest} {r : Refusal} :
    Draft.check ⟨id, some payer, some payee, some amount, fee⟩ digest = .error r ↔
      if amount < 0 then r = .negativeAmount amount
      else if fee < 0 then r = .negativeFee fee
      else payer = payee ∧ r = .selfTransfer payer := by
  simp only [Draft.check, Draft.entry, bind_eq_error_iff, reduceCtorEq, false_or, Except.ok.injEq,
    exists_eq_left']
  by_cases ha : amount < 0
  · simp [ha, throw, throwThe, MonadExceptOf.throw, eq_comm]
  · by_cases hf : fee < 0
    · simp [ha, hf, throw, throwThe, MonadExceptOf.throw, eq_comm]
    · by_cases hp : payer = payee
      · simp [ha, hf, hp, throw, throwThe, MonadExceptOf.throw, eq_comm]
      · simp [ha, hf, hp, pure, Except.pure]

theorem figure_eq_error_iff {f : Figure} {o : Option Amount} {r : Refusal} :
    figure f o = .error r ↔ o = none ∧ r = .overflow f := by
  cases o <;> simp [figure, eq_comm]

theorem settle_eq_insufficientBalance {l : Ledger} {t : Transfer} {a : Address}
    {required available : Amount}
    (h : l.settle t = .error (.insufficientBalance a required available)) :
    l.held t.payer < t.amount.toInt + t.fee.toInt := by
  simp only [settle, bind_eq_error_iff, figure_eq_error_iff, figure_eq_ok_iff, Transfer.total?,
    Amount.add?_eq_some_iff, reduceCtorEq, and_false, false_or] at h
  obtain ⟨due, hdue, h⟩ := h
  split at h
  · rename_i hlt
    rw [← hdue]
    exact Amount.lt_iff.1 hlt
  · simp [bind_eq_error_iff, figure_eq_error_iff, pure, Except.pure] at h

/-- Only a payer that holds less than it has to pay is refused for want of balance. -/
theorem transfer_eq_insufficientBalance {l : Ledger} {id : LedgerId} {payer : Identity}
    {payee : Address} {amount fee : Amount} {a : Address} {required available : Amount}
    (h : l.transfer id payer payee amount fee =
      .error (.insufficientBalance a required available)) :
    l.held payer.address < amount.toInt + fee.toInt := by
  simp only [transfer, bind_eq_error_iff, checkId_eq_error_iff, checkId_eq_ok_iff,
    check_eq_error_iff, check_eq_ok_iff, reduceCtorEq, and_false, false_or, if_false_right] at h
  obtain ⟨_, -, _, -, t, ⟨-, -, -, rfl⟩, h⟩ := h
  have hlt := settle_eq_insufficientBalance h
  exact hlt

end Bazaar.Ledger
