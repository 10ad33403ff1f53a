import Bazaar.Proofs.Ledger.Audit
import Bazaar.Proofs.Ledger.Posting

/-!
The supply of a ledger: what was minted is what is held and what was paid as fees. The invariant
`Sound` holds of a new ledger and is kept by each mint and by each posted transfer. Main
statements: a sound ledger passes its audit (`finding_eq_balanced`), and after any requests a
ledger is sound (`sound_serveAll`).
-/

namespace Bazaar.Ledger

/-! ### The invariant -/

/-- The sum of all balances. -/
def circulating (l : Ledger) : Int := Amount.total l.balances.values

/-- The sum of all fees that were ever paid. -/
def burned (l : Ledger) : Int := Amount.total (l.log.map (·.fee))

/-- **The books are in order**: nothing is negative, and the supply is accounted for. -/
structure Sound (l : Ledger) : Prop where
  balance_nonneg : ∀ {a b}, l.balance? a = some b → 0 ≤ b.toInt
  log_nonneg : ∀ t ∈ l.log, 0 ≤ t.amount.toInt ∧ 0 ≤ t.fee.toInt
  supply : l.minted.toInt = l.circulating + l.burned

theorem held_of_balance? {l : Ledger} {a : Address} {b : Amount} (h : l.balance? a = some b) :
    l.held a = b.toInt := by
  rw [held, h, Option.getD_some]

theorem circulating_insert {l : Ledger} {a : Address} {b : Amount} :
    Amount.total (l.balances.insert a b).values = l.circulating - l.held a + b.toInt :=
  SortedMap.total_values_insert l.balances a b

namespace Sound

variable {l l' : Ledger}

theorem held_nonneg (h : l.Sound) (a : Address) : 0 ≤ l.held a := by
  cases hb : l.balance? a with
  | none =>
    have hzero : l.held a = 0 := by simp [held, hb]
    exact Int.le_of_eq hzero.symm
  | some b =>
    rw [held_of_balance? hb]
    exact h.balance_nonneg hb

theorem values_nonneg (h : l.Sound) : ∀ b ∈ l.balances.values, 0 ≤ b.toInt := by
  intro b hb
  obtain ⟨a, ha⟩ := SortedMap.exists_get?_of_mem_values hb
  exact h.balance_nonneg ha

theorem fees_nonneg (h : l.Sound) : ∀ f ∈ l.log.map (·.fee), 0 ≤ f.toInt := by
  intro f hf
  obtain ⟨t, ht, rfl⟩ := List.mem_map.1 hf
  exact (h.log_nonneg t ht).2

theorem burned_nonneg (h : l.Sound) : 0 ≤ l.burned := Amount.total_nonneg h.fees_nonneg

/-- The accounts of two addresses hold no more together than what was minted. -/
theorem held_add_held_le (h : l.Sound) {a b : Address} (hne : a ≠ b) :
    l.held a + l.held b ≤ l.minted.toInt := by
  -- with both accounts emptied the rest of the book is not negative
  let emptied := (l.balances.insert a 0).insert b 0
  have hrest : 0 ≤ Amount.total emptied.values := by
    refine Amount.total_nonneg fun c hc => ?_
    obtain ⟨k, hk⟩ := SortedMap.exists_get?_of_mem_values hc
    simp only [emptied, SortedMap.get?_insert] at hk
    split at hk
    · simp [← Option.some.inj hk]
    · split at hk
      · simp [← Option.some.inj hk]
      · exact h.balance_nonneg hk
  have hb : ((l.balances.insert a 0).get? b).getD 0 = (l.balance? b).getD 0 := by
    simp [balance?, hne.symm]
  have htotal : Amount.total emptied.values = l.circulating - l.held a - l.held b := by
    rw [SortedMap.total_values_insert, circulating_insert, hb, Int64.toInt_zero]
    simp [held]
  have hburned := h.burned_nonneg
  have hsupply := h.supply
  omega

/-! ### The invariant is kept -/

theorem new (id : LedgerId) (drawn : Nat → Digest) : (Ledger.new id drawn).Sound where
  balance_nonneg := by simp [Ledger.new, balance?]
  log_nonneg := by simp [Ledger.new]
  supply := rfl

theorem mint (h : l.Sound) {a : Address} {amount b : Amount}
    (hm : l.mint a amount = .ok (l', b)) : l'.Sound := by
  obtain ⟨hn, hb, minted, hminted, rfl⟩ := mint_eq_ok_iff.1 hm
  have ha := h.held_nonneg a
  refine ⟨fun {a' b'} h' => ?_, h.log_nonneg, ?_⟩
  · simp only [balance?, SortedMap.get?_insert] at h'
    split at h'
    · rw [← Option.some.inj h', hb]
      omega
    · exact h.balance_nonneg h'
  · have hs := h.supply
    simp only [circulating, circulating_insert, burned] at hs ⊢
    omega

/-- **A posted transfer keeps the books in order.** -/
theorem posts (h : l.Sound) {t : Transfer} (ht : l.Posts t l') : l'.Sound := by
  have hcovered := ht.covered
  have hamount := ht.amount_nonneg
  have hpayee := h.held_nonneg t.payee
  refine ⟨fun {a b} hb => ?_, fun s hs => ?_, ?_⟩
  · rw [← held_of_balance? hb]
    by_cases hp : a = t.payer
    · rw [hp, ht.held_payer]
      omega
    · by_cases hq : a = t.payee
      · rw [hq, ht.held_payee]
        omega
      · rw [ht.balance?_other hp hq] at hb
        rw [held, ht.balance?_other hp hq]
        exact h.held_nonneg a
  · rw [ht.log_eq] at hs
    rcases List.mem_append.1 hs with hs | hs
    · exact h.log_nonneg s hs
    · rw [List.mem_singleton.1 hs]
      exact ⟨hamount, ht.fee_nonneg⟩
  · obtain ⟨payer, payee, hpayer, hpayee, rfl⟩ := ht.books
    have hq : ((l.balances.insert t.payer payer).get? t.payee).getD 0 =
        (l.balance? t.payee).getD 0 := by
      simp [balance?, ht.distinct.symm]
    have hc : (l.withPosted t payer payee).circulating =
        l.circulating - l.held t.payer + payer.toInt - l.held t.payee + payee.toInt := by
      rw [circulating, withPosted, SortedMap.total_values_insert, circulating_insert, hq]
      rfl
    have hf : (l.withPosted t payer payee).burned = l.burned + t.fee.toInt := by
      simp [burned, withPosted]
    have hs := h.supply
    rw [hc, hf]
    simp only [withPosted]
    omega

/-- In books that are in order only the payer's balance can stand in the way of a transfer: what
the payee gets fits, because it was minted. -/
theorem exists_posts (h : l.Sound) {t : Transfer} (hne : t.payer ≠ t.payee)
    (ha : 0 ≤ t.amount.toInt) (hf : 0 ≤ t.fee.toInt)
    (hc : t.amount.toInt + t.fee.toInt ≤ l.held t.payer) : ∃ l', l.Posts t l' := by
  have hpayee := h.held_nonneg t.payee
  have hboth := h.held_add_held_le hne
  obtain ⟨payer, hp⟩ := Amount.exists_toInt_of_le (a := l.minted)
    (n := l.held t.payer - (t.amount.toInt + t.fee.toInt)) (by omega) (by omega)
  obtain ⟨payee, hq⟩ := Amount.exists_toInt_of_le (a := l.minted)
    (n := l.held t.payee + t.amount.toInt) (by omega) (by omega)
  exact ⟨_, hne, ha, hf, hc, payer, payee, hp, hq, rfl⟩

/-! ### The audit -/

/-- **Books in order pass the audit**: there are no debts in them. -/
theorem finding_eq_balanced (h : l.Sound) : l.finding = .balanced :=
  audit_eq_balanced_of_nonneg h.values_nonneg h.fees_nonneg h.supply

end Sound

/-! ### Runs of requests -/

/-- What is asked of a ledger from outside. -/
inductive Request where
  | mint (a : Address) (amount : Amount)
  | transfer (id : LedgerId) (payer : Identity) (payee : Address) (amount fee : Amount)

/-- The ledger after a request, which changes nothing if it is refused. -/
def serve (l : Ledger) : Request → Ledger
  | .mint a amount =>
    match l.mint a amount with
    | .ok r => r.1
    | .error _ => l
  | .transfer id payer payee amount fee =>
    match l.transfer id payer payee amount fee with
    | .ok r => r.1
    | .error _ => l

/-- The ledger after a list of requests. -/
def serveAll (l : Ledger) (rs : List Request) : Ledger := rs.foldl serve l

theorem Sound.serve {l : Ledger} (h : l.Sound) (r : Request) : (l.serve r).Sound := by
  cases r with
  | mint a amount =>
    simp only [Ledger.serve]
    split
    · rename_i hr
      exact h.mint hr
    · exact h
  | transfer id payer payee amount fee =>
    simp only [Ledger.serve]
    split
    · rename_i hr
      exact h.posts (transfer_eq_ok_iff.1 hr).2.2.1
    · exact h

theorem sound_serveAll {l : Ledger} (h : l.Sound) (rs : List Request) : (l.serveAll rs).Sound := by
  induction rs generalizing l with
  | nil => exact h
  | cons r rs ih => exact ih (h.serve r)

end Bazaar.Ledger
