import Bazaar.Proofs.Ledger.Accounts

/-!
What a ledger answers. The grounds on which a request can be refused are listed in order, among the
integers (`mintGround?`, `transferGround?`); that a balance could leave the range of amounts is not
among them, because in books that are in order no balance exceeds what was minted. Main statement:
a request in place is refused on the first ground there is and writes nothing, and without a ground
it is carried out (`requests_answered`).
-/

namespace Bazaar.Ledger

/-! ### Requests in place -/

theorem run_mintInPlace (l : Ledger) (a : Address) (amount : Amount) :
    (mintInPlace a amount).run l = inPlace l (l.mint a amount) := by
  unfold mintInPlace mint
  split
  · rfl
  · rw [run_get_bind]
    refine run_ofExcept_bind fun minted => ?_
    rw [run_get_bind]
    exact run_ofExcept_bind fun balance => rfl

theorem run_settleInPlace (l : Ledger) (t : Transfer) :
    (settleInPlace t).run l = inPlace l (l.settle t) := by
  refine run_ofExcept_bind fun required => ?_
  rw [run_get_bind]
  dsimp only
  split
  · rfl
  · refine run_ofExcept_bind fun payer => ?_
    rw [run_get_bind]
    exact run_ofExcept_bind fun payee => rfl

theorem run_transferInPlace (l : Ledger) (id : LedgerId) (payer : Identity) (payee : Address)
    (amount fee : Amount) : (transferInPlace id payer payee amount fee).run l =
      inPlace l (l.transfer id payer payee amount fee) := by
  unfold transferInPlace transfer
  rw [run_get_bind]
  refine run_ofExcept_bind fun _ => ?_
  rw [run_get_bind]
  refine run_ofExcept_bind fun _ => ?_
  exact run_ofExcept_bind (run_settleInPlace l)

/-! ### Grounds to refuse a request -/

/-- The first ground to refuse a mint, if there is one: that it is negative, or that more would be
minted in all than an amount can say. -/
def mintGround? (l : Ledger) (amount : Amount) : Option Refusal :=
  if amount.toInt < 0 then some (.negativeAmount amount)
  else if Amount.greatest.toInt < l.minted.toInt + amount.toInt then some (.overflow .supply)
  else none

/-- The first ground not to settle a transfer, if there is one: that amount and fee are more than an
amount can say, or more than the payer holds. -/
def settleGround? (l : Ledger) (t : Transfer) : Option Refusal :=
  if Amount.greatest.toInt < t.amount.toInt + t.fee.toInt then some (.overflow .total)
  else if l.held t.payer < t.amount.toInt + t.fee.toInt then
    some (.insufficientBalance t.payer (Int64.ofInt (t.amount.toInt + t.fee.toInt))
      ((l.balance? t.payer).getD 0))
  else none

/-- The first ground to refuse a transfer, if there is one. -/
def transferGround? (l : Ledger) (id : LedgerId) (payer : Identity) (payee : Address)
    (amount fee : Amount) : Option Refusal :=
  if id ≠ l.id then some (.unknownLedger id)
  else if payer.ledger ≠ l.id then some (.unknownLedger payer.ledger)
  else if amount.toInt < 0 then some (.negativeAmount amount)
  else if fee.toInt < 0 then some (.negativeFee fee)
  else if payer.address = payee then some (.selfTransfer payee)
  else l.settleGround? ⟨l.nextDigest, id, payer.address, payee, amount, fee⟩

/-- **A request is answered**: it is refused on the first ground there is, and then the ledger is as
it was; without a ground it is carried out, as `done` says of the answer and the ledger after it. -/
structure Answers {α : Type} (x : EStateM Refusal Ledger α) (l : Ledger) (ground? : Option Refusal)
    (done : α → Ledger → Prop) : Prop where
  refused : ∀ r l', x.run l = .error r l' ↔ ground? = some r ∧ l' = l
  granted : ground? = none → ∃ a l', x.run l = .ok a l' ∧ done a l'

section Grounds

variable {α : Type} {p : Prop} [Decidable p] {a b : α} {o : Option α}

/-- If there is no ground, then not the first, and none of the others. -/
theorem ite_some_eq_none (h : (if p then some a else o) = none) : ¬ p ∧ o = none := by
  split at h
  · cases h
  · rename_i hp
    exact ⟨hp, h⟩

/-- The ground that there is is the first, or one of the others if the first does not hold. -/
theorem ite_some_eq_some (h : (if p then some a else o) = some b) :
    p ∧ a = b ∨ ¬ p ∧ o = some b := by
  split at h
  · rename_i hp
    exact .inl ⟨hp, Option.some.inj h⟩
  · rename_i hp
    exact .inr ⟨hp, h⟩

end Grounds

/-- A request that writes only after all else has succeeded, by what it comes to with each ground
and without one. -/
theorem Answers.of_run {α : Type} {x : EStateM Refusal Ledger α} {l : Ledger}
    {res : Except Refusal (Ledger × α)} {ground? : Option Refusal} {done : α → Ledger → Prop}
    (hrun : x.run l = inPlace l res) (hrefused : ∀ r, ground? = some r → res = .error r)
    (hgranted : ground? = none → ∃ a l', res = .ok (l', a) ∧ done a l') :
    Answers x l ground? done := by
  refine ⟨fun r l' => ?_, fun hnone => ?_⟩
  · rw [hrun, inPlace_eq_error_iff]
    refine and_congr_left fun _ => ⟨fun hr => ?_, hrefused r⟩
    cases hg : ground? with
    | none =>
      obtain ⟨a, l', hok, -⟩ := hgranted hg
      cases hok.symm.trans hr
    | some q =>
      cases (hrefused q hg).symm.trans hr
      rfl
  · obtain ⟨a, l', hok, hdone⟩ := hgranted hnone
    exact ⟨a, l', hrun.trans (inPlace_eq_ok_iff.2 hok), hdone⟩

/-! ### Mints -/

section Mint

variable {l : Ledger} {a : Address} {amount : Amount}

/-- No account holds more than what was minted. -/
theorem Sound.held_le_minted (h : l.Sound) (a : Address) : l.held a ≤ l.minted.toInt := by
  have hnontrivial : Nontrivial Address := ⟨"a", "b", by decide⟩
  obtain ⟨b, hb⟩ := exists_ne a
  have hboth := h.held_add_held_le hb
  have hother := h.held_nonneg b
  omega

theorem toInt_greatest : Amount.greatest.toInt = 9223372036854775807 := rfl

theorem mint_eq_error {r : Refusal} (hg : l.mintGround? amount = some r) :
    l.mint a amount = .error r := by
  unfold mintGround? at hg
  obtain ⟨hneg, rfl⟩ | ⟨hnonneg, hg⟩ := ite_some_eq_some hg
  · rw [mint, if_pos (Amount.neg_iff.2 hneg)]
    rfl
  obtain ⟨hover, rfl⟩ | ⟨-, hg⟩ := ite_some_eq_some hg
  · have hnone : Amount.add? l.minted amount = none := by
      refine Amount.ofInt?_eq_none_iff.2 fun hin => ?_
      have hlt := hin.2
      rw [toInt_greatest] at hover
      omega
    rw [mint, if_neg (fun hlt => hnonneg (Amount.neg_iff.1 hlt)), hnone]
    rfl
  · cases hg

/-- What is minted fits the account, because it fits the supply. -/
theorem Sound.exists_mint (h : l.Sound) (hg : l.mintGround? amount = none) :
    ∃ l' b, l.mint a amount = .ok (l', b) := by
  unfold mintGround? at hg
  obtain ⟨hnonneg, hg⟩ := ite_some_eq_none hg
  obtain ⟨hfits, -⟩ := ite_some_eq_none hg
  have hheld := h.held_nonneg a
  have hle := h.held_le_minted a
  obtain ⟨minted, hminted⟩ := Amount.exists_toInt_of_le (a := Amount.greatest)
    (n := l.minted.toInt + amount.toInt) (by omega) (by omega)
  obtain ⟨b, hb⟩ := Amount.exists_toInt_of_le (a := minted)
    (n := l.held a + amount.toInt) (by omega) (by omega)
  exact ⟨_, b, mint_eq_ok_iff.2 ⟨by omega, hb, minted, hminted, rfl⟩⟩

end Mint

/-! ### Transfers -/

section Transfer

variable {l : Ledger} {id : LedgerId} {payer : Identity} {payee : Address} {amount fee : Amount}

theorem transfer_of_named (hid : id = l.id) (hpayer : payer.ledger = l.id) :
    l.transfer id payer payee amount fee =
      Draft.check ⟨id, some payer.address, some payee, some amount, fee⟩ l.nextDigest >>=
        l.settle := by
  rw [transfer, checkId, checkId, if_pos hid, if_pos hpayer]
  rfl

theorem settle_eq_error {t : Transfer} {r : Refusal} (ha : 0 ≤ t.amount.toInt)
    (hf : 0 ≤ t.fee.toInt) (hg : l.settleGround? t = some r) : l.settle t = .error r := by
  unfold settleGround? at hg
  have hgreatest := toInt_greatest
  obtain ⟨hover, rfl⟩ | ⟨hfits, hg⟩ := ite_some_eq_some hg
  · have hnone : t.total? = none := by
      refine Amount.ofInt?_eq_none_iff.2 fun hin => ?_
      have hlt := hin.2
      omega
    rw [settle, hnone]
    rfl
  obtain ⟨hshort, rfl⟩ | ⟨-, hg⟩ := ite_some_eq_some hg
  · have hin : Amount.InRange (t.amount.toInt + t.fee.toInt) := ⟨by omega, by omega⟩
    have htotal : t.total? = some (Int64.ofInt (t.amount.toInt + t.fee.toInt)) := if_pos hin
    have hlt : (l.balance? t.payer).getD 0 < Int64.ofInt (t.amount.toInt + t.fee.toInt) := by
      rw [Amount.lt_iff, Amount.toInt_ofInt hin]
      exact hshort
    rw [settle, htotal]
    exact if_pos hlt
  · cases hg

theorem transfer_eq_error {r : Refusal}
    (hg : l.transferGround? id payer payee amount fee = some r) :
    l.transfer id payer payee amount fee = .error r := by
  unfold transferGround? at hg
  obtain ⟨hid, rfl⟩ | ⟨hid, hg⟩ := ite_some_eq_some hg
  · rw [transfer, checkId, if_neg hid]
    rfl
  obtain ⟨hpayer, rfl⟩ | ⟨hpayer, hg⟩ := ite_some_eq_some hg
  · rw [transfer, checkId, checkId, if_pos (not_not.1 hid), if_neg hpayer]
    rfl
  rw [transfer_of_named (not_not.1 hid) (not_not.1 hpayer), bind_eq_error_iff, check_eq_error_iff]
  obtain ⟨hneg, hr⟩ | ⟨hamount, hg⟩ := ite_some_eq_some hg
  · rw [if_pos (Amount.neg_iff.2 hneg)]
    exact .inl hr.symm
  rw [if_neg (fun h => hamount (Amount.neg_iff.1 h))]
  obtain ⟨hneg, hr⟩ | ⟨hfee, hg⟩ := ite_some_eq_some hg
  · rw [if_pos (Amount.neg_iff.2 hneg)]
    exact .inl hr.symm
  rw [if_neg (fun h => hfee (Amount.neg_iff.1 h))]
  obtain ⟨hself, hr⟩ | ⟨hdistinct, hg⟩ := ite_some_eq_some hg
  · exact .inl ⟨hself, hself ▸ hr.symm⟩
  have ha := Int.not_lt.1 hamount
  have hf := Int.not_lt.1 hfee
  exact .inr ⟨_, check_eq_ok_iff.2 ⟨ha, hf, hdistinct, rfl⟩, settle_eq_error ha hf hg⟩

/-- Without a ground against it a transfer can be posted: the payee's balance cannot leave the
range. -/
theorem Sound.exists_transfer (h : l.Sound)
    (hg : l.transferGround? id payer payee amount fee = none) :
    ∃ l', l.transfer id payer payee amount fee = .ok (l', l.nextDigest) := by
  unfold transferGround? at hg
  obtain ⟨hid, hg⟩ := ite_some_eq_none hg
  obtain ⟨hpayer, hg⟩ := ite_some_eq_none hg
  obtain ⟨hamount, hg⟩ := ite_some_eq_none hg
  obtain ⟨hfee, hg⟩ := ite_some_eq_none hg
  obtain ⟨hdistinct, hg⟩ := ite_some_eq_none hg
  unfold settleGround? at hg
  obtain ⟨-, hg⟩ := ite_some_eq_none hg
  obtain ⟨hcovered, -⟩ := ite_some_eq_none hg
  obtain ⟨l', hposts⟩ := h.exists_posts
    (t := ⟨l.nextDigest, id, payer.address, payee, amount, fee⟩) hdistinct
    (Int.not_lt.1 hamount) (Int.not_lt.1 hfee) (Int.not_lt.1 hcovered)
  exact ⟨l', transfer_eq_ok_iff.2 ⟨not_not.1 hid, not_not.1 hpayer, hposts, rfl⟩⟩

end Transfer

/-! ### Requests in books that are in order -/

section Sound

variable {l : Ledger}

theorem Sound.answers_mint (h : l.Sound) (a : Address) (amount : Amount) :
    Answers (mintInPlace a amount) l (l.mintGround? amount) fun b l' =>
      b.toInt = l.held a + amount.toInt ∧ l'.balance? a = some b ∧
      (∀ c, c ≠ a → l'.balance? c = l.balance? c) ∧
      l'.minted.toInt = l.minted.toInt + amount.toInt ∧ l'.log = l.log := by
  refine .of_run (run_mintInPlace l a amount) (fun r => mint_eq_error) fun hnone => ?_
  obtain ⟨l', b, hok⟩ := h.exists_mint (a := a) hnone
  obtain ⟨-, hb, minted, hminted, hl'⟩ := mint_eq_ok_iff.1 hok
  refine ⟨b, l', hok, hb, ?_, fun c hc => ?_, ?_, log_mint hok⟩
  · rw [hl', balance?, SortedMap.get?_insert, if_pos rfl]
  · rw [hl', balance?, SortedMap.get?_insert, if_neg hc, balance?]
  · rw [hl', hminted]

theorem Sound.answers_transfer (h : l.Sound) (id : LedgerId) (payer : Identity) (payee : Address)
    (amount fee : Amount) :
    Answers (transferInPlace id payer payee amount fee) l
      (l.transferGround? id payer payee amount fee) fun d l' =>
        d = l.nextDigest ∧ l.Posts ⟨d, id, payer.address, payee, amount, fee⟩ l' ∧
        l'.minted = l.minted ∧
        ∀ c, c ≠ payer.address → c ≠ payee → l'.balance? c = l.balance? c := by
  refine .of_run (run_transferInPlace l id payer payee amount fee) (fun r => transfer_eq_error)
    fun hnone => ?_
  obtain ⟨l', hok⟩ := h.exists_transfer hnone
  obtain ⟨-, -, hposts, hd⟩ := transfer_eq_ok_iff.1 hok
  refine ⟨_, l', hok, hd, hposts, ?_, fun c => hposts.balance?_other⟩
  obtain ⟨_, _, -, -, hl'⟩ := hposts.books
  rw [hl']
  rfl

end Sound

/-- Of the figures that can leave the range, a mint is only ever refused for the supply. -/
theorem mintGround?_eq_overflow {l : Ledger} {amount : Amount} {f : Figure}
    (h : l.mintGround? amount = some (.overflow f)) : f = .supply := by
  unfold mintGround? at h
  obtain ⟨-, hr⟩ | ⟨-, h⟩ := ite_some_eq_some h
  · cases hr
  obtain ⟨-, hr⟩ | ⟨-, h⟩ := ite_some_eq_some h
  · exact (Refusal.overflow.inj hr).symm
  · cases h

/-- Of the figures that can leave the range, a transfer is only ever refused for its total. -/
theorem transferGround?_eq_overflow {l : Ledger} {id : LedgerId} {payer : Identity}
    {payee : Address} {amount fee : Amount} {f : Figure}
    (h : l.transferGround? id payer payee amount fee = some (.overflow f)) : f = .total := by
  unfold transferGround? at h
  -- the grounds before the total are about no figure
  iterate 5
    obtain ⟨-, hr⟩ | ⟨-, h⟩ := ite_some_eq_some h
    · cases hr
  unfold settleGround? at h
  obtain ⟨-, hr⟩ | ⟨-, h⟩ := ite_some_eq_some h
  · exact (Refusal.overflow.inj hr).symm
  obtain ⟨-, hr⟩ | ⟨-, h⟩ := ite_some_eq_some h
  · cases hr
  · cases h

/-- **Every request is answered.** Whatever was asked of a new ledger before, a mint and a transfer
in place are refused on the first ground there is, with the ledger as it was; no balance is among
the figures that leave the range. Without a ground a mint answers the old balance plus the amount,
and a transfer is posted under the digest that is answered; no other account changes. -/
theorem requests_answered (id : LedgerId) (drawn : Nat → Digest) (rs : List Request) :
    let l := (Ledger.new id drawn).serveAll rs
    (∀ a amount, Answers (mintInPlace a amount) l (l.mintGround? amount) fun b l' =>
      b.toInt = l.held a + amount.toInt ∧ l'.balance? a = some b ∧
      (∀ c, c ≠ a → l'.balance? c = l.balance? c) ∧
      l'.minted.toInt = l.minted.toInt + amount.toInt ∧ l'.log = l.log) ∧
    (∀ on payer payee amount fee, Answers (transferInPlace on payer payee amount fee) l
      (l.transferGround? on payer payee amount fee) fun d l' =>
        d = l.nextDigest ∧ l.Posts ⟨d, on, payer.address, payee, amount, fee⟩ l' ∧
        l'.minted = l.minted ∧
        ∀ c, c ≠ payer.address → c ≠ payee → l'.balance? c = l.balance? c) ∧
    (∀ a amount f l', (mintInPlace a amount).run l = .error (.overflow f) l' → f = .supply) ∧
    ∀ on payer payee amount fee f l',
      (transferInPlace on payer payee amount fee).run l = .error (.overflow f) l' → f = .total := by
  intro l
  have hsound : l.Sound := sound_serveAll (Sound.new id drawn) rs
  refine ⟨hsound.answers_mint, hsound.answers_transfer, fun a amount f l' h => ?_,
    fun on payer payee amount fee f l' h => ?_⟩
  · exact mintGround?_eq_overflow (((hsound.answers_mint a amount).refused _ l').1 h).1
  · exact transferGround?_eq_overflow
      (((hsound.answers_transfer on payer payee amount fee).refused _ l').1 h).1

-- of three grounds the negative amount comes first
example : (new "l" .ofNumber).transferGround? "l" ⟨"l", "a"⟩ "a" (-1) (-1) =
    some (.negativeAmount (-1)) := by
  decide

end Bazaar.Ledger
