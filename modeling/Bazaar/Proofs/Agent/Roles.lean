import Bazaar.Proofs.Agent.Acceptance
import Bazaar.Proofs.Agent.Initialization

/-!
The two roles of an agent in a transaction. Vetting takes a seller to be paid; a settlement charges
the agent whatever its role. Main statement: the two agree exactly if the agent buys or the amount
is zero (`settlement_change_eq_iff`).
-/

namespace Bazaar.Agent

namespace Preferences

variable {p : Preferences} {o : Ownership} {t : Transaction}

/-- A change of the score is found from the holdings after the transaction. -/
theorem exists_update_of_scoreChange {x : Float} (h : p.scoreChange o t = .ok x) :
    ∃ o', o.update t = .ok o' := by
  obtain ⟨_, -, h⟩ := bind_eq_ok_iff.1 h
  obtain ⟨_, -, h⟩ := bind_eq_ok_iff.1 h
  obtain ⟨_, -, h⟩ := bind_eq_ok_iff.1 h
  obtain ⟨next, hnext, -⟩ := bind_eq_ok_iff.1 h
  obtain ⟨o', ho', -⟩ := bind_eq_ok_iff.1 hnext
  exact ⟨o', ho'⟩

end Preferences

namespace State

variable {w : Wallet} {s : State} {t : Transaction}

/-- A settlement charges the agent the amount and its fee, whether it buys or sells. -/
theorem held_of_accept (ht : t.isOffChain = false) (ha : (s.decide w t).2.performative = .accept)
    {i : Identity} (hi : w.identity? t.ledger = some i) :
    (s.decide w t).1.ledger.held i.address =
      s.ledger.held i.address - (t.amount.toInt + t.senderFee.toInt) := by
  obtain ⟨-, r, hr, hp⟩ := exists_posts_of_accept ht ha
  obtain ⟨j, hj, -, hpayer⟩ := hr.payer
  obtain rfl : i = j := Option.some.inj (hi.symm.trans hj)
  rw [← hpayer, hp.held_payer, hr.debit]

/-- **What a settlement does and what vetting took it to do.** A transaction that is accepted on a
ledger takes the amount and the sender's fee from the agent's account there. The holdings by which
it was scored, if there was a score, come of it as well; and on whatever holdings it is carried out,
the account changes by as much as the holding of the currency exactly if the agent buys, or sells
for nothing. -/
theorem settlement_change_eq_iff (w : Wallet) (s : State) (t : Transaction)
    (ht : t.isOffChain = false) (ha : (s.decide w t).2.performative = .accept) :
    ∃ i, w.identity? t.ledger = some i ∧
      (s.decide w t).1.ledger.held i.address =
        s.ledger.held i.address - (t.amount.toInt + t.senderFee.toInt) ∧
      (s.ownership.isInitialized = false ∨ s.preferences.isInitialized = false ∨
        ∃ o, s.ownership.update t = .ok o) ∧
      ∀ o o' : Ownership, o.update t = .ok o' →
        o'.currencyHeld t.currency - o.currencyHeld t.currency = t.currencyChange ∧
        ((s.decide w t).1.ledger.held i.address - s.ledger.held i.address =
            o'.currencyHeld t.currency - o.currencyHeld t.currency ↔
          t.senderBuys = true ∨ t.amount.toInt = 0) := by
  obtain ⟨hscore, r, hr, -⟩ := exists_posts_of_accept ht ha
  obtain ⟨i, hi, -, -⟩ := hr.payer
  have hheld := held_of_accept ht ha hi
  refine ⟨i, hi, hheld, ?_, fun o o' ho => ?_⟩
  · rcases hscore with h | h | ⟨x, hx, -⟩
    · exact .inl h
    · exact .inr (.inl h)
    · exact .inr (.inr (Preferences.exists_update_of_scoreChange hx))
  · have hchange := Ownership.currencyHeld_of_update ho
    refine ⟨by omega, ?_⟩
    rw [hheld, hchange, Transaction.currencyChange]
    cases t.senderBuys with
    | true =>
      simp only [if_true, true_or, iff_true]
      omega
    | false =>
      simp only [Bool.false_eq_true, if_false, false_or]
      omega

/-- Ten of a currency for an apple, with a fee of one for the agent. -/
def apple (senderBuys : Bool) : Transaction :=
  ⟨.propose, "1", "a", "b", senderBuys, "FET", 10, 1, 0, .ofList [("apple", 1)], "l", .empty, none⟩

/-- An agent that has 100 on the ledger. -/
def funded : State := .new (.serveAll (.new "l" .ofNumber) [.mint "a" 100])

theorem settlement_change_eq_iff_bought :
    let w := Wallet.ofIdentities [⟨"l", "a"⟩]
    ((apple true).isOffChain = false ∧ (funded.decide w (apple true)).2.performative = .accept) ∧
      ∃ i, w.identity? "l" = some i ∧ (funded.decide w (apple true)).1.ledger.held i.address = 89 ∧
        ∀ o o' : Ownership, o.update (apple true) = .ok o' →
          o'.currencyHeld "FET" - o.currencyHeld "FET" = -11 := by
  intro w
  have ht : (apple true).isOffChain = false := by decide +kernel
  have ha : (funded.decide w (apple true)).2.performative = .accept := by decide +kernel
  obtain ⟨i, hi, hheld, -, hupdate⟩ := settlement_change_eq_iff w funded (apple true) ht ha
  have hbefore : (w.identity? "l").map (funded.ledger.held ·.address) = some 100 := by
    decide +kernel
  refine ⟨⟨ht, ha⟩, i, hi, ?_, fun o o' ho => (hupdate o o' ho).1⟩
  rw [show w.identity? "l" = some i from hi, Option.map_some, Option.some.injEq] at hbefore
  rw [hheld, hbefore]
  decide

/-- It is not so that a settlement does to the account of the agent what the transaction does to its
holdings: an agent that sells for ten, with a fee of one, is charged eleven and not credited nine. -/
theorem not_forall_settlement_change_eq :
    ¬ ∀ (id : LedgerId) (drawn : Nat → Digest) (rs : List Ledger.Request) (w : Wallet)
        (es : List (Ledger × Envelope)) (t : Transaction),
      let l := Ledger.new id drawn
      let s := ((new l).after w es).withLedger (l.serveAll rs)
      t.isOffChain = false → (s.decide w t).2.performative = .accept →
        ∀ i, w.identity? t.ledger = some i → ∀ o o' : Ownership, o.update t = .ok o' →
          (s.decide w t).1.ledger.held i.address - s.ledger.held i.address =
            o'.currencyHeld t.currency - o.currencyHeld t.currency := by
  intro h
  let o : Ownership := .ofHoldings (.ofList [("FET", 100)]) (.ofList [("apple", 5)])
  let o' : Ownership := .ofHoldings (.ofList [("FET", 109)]) (.ofList [("apple", 4)])
  have heq := h "l" .ofNumber [.mint "a" 100] (.ofIdentities [⟨"l", "a"⟩]) [] (apple false)
    (by decide +kernel) (by decide +kernel) ⟨"l", "a"⟩ (by decide +kernel) o o'
    (by decide +kernel)
  exact absurd heq (by decide +kernel)

end State

end Bazaar.Agent
