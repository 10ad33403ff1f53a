import Mathlib.Data.List.Forall2
import Bazaar.Agent.DecisionMaker
import Bazaar.Proofs.Ledger.Posting

/-!
What an agent's decisions do to the ledger. Each envelope has one of five effects (`Effect`), of
which only the settlement of an accepted transaction touches the ledger, and a cycle is a chain of
them (`drain_effects`). Main statement: the transfers that a cycle logs are those of the
transactions it accepts on a ledger, one for one and in order (`execute_settlements`).
-/

namespace Bazaar

-- sums are those of the core library, as in `Amount.total`
attribute [local instance (high)] Zero.ofOfNat0

namespace Ledger

/-! ### What transfers do to a balance -/

/-- What an address gets by a transfer. -/
def Transfer.credit (t : Transfer) (a : Address) : Int := if a = t.payee then t.amount.toInt else 0

/-- What an address pays for a transfer. -/
def Transfer.debit (t : Transfer) (a : Address) : Int :=
  if a = t.payer then t.amount.toInt + t.fee.toInt else 0

/-- What an address gains by a list of transfers. -/
def gain (ts : List Transfer) (a : Address) : Int := (ts.map fun t => t.credit a - t.debit a).sum

theorem Posts.held_eq {l l' : Ledger} {t : Transfer} (h : l.Posts t l') (a : Address) :
    l'.held a = l.held a + (t.credit a - t.debit a) := by
  unfold Transfer.credit Transfer.debit
  by_cases hp : a = t.payer
  · have hq : a ≠ t.payee := hp ▸ h.distinct
    rw [if_neg hq, if_pos hp, hp, h.held_payer]
    omega
  · by_cases hq : a = t.payee
    · rw [if_pos hq, if_neg hp, hq, h.held_payee]
      omega
    · rw [if_neg hq, if_neg hp, held, h.balance?_other hp hq, held]
      omega

end Ledger

namespace Agent

/-! ### Settlement of one transaction -/

/-- **A transfer records a transaction**: the agent pays from its address on the ledger of the
transaction, the counterparty gets the amount less its fee, and both fees are the fee. -/
structure Records (w : Wallet) (t : Transaction) (r : Ledger.Transfer) : Prop where
  payer : ∃ i, w.identity? t.ledger = some i ∧ r.ledger = i.ledger ∧ r.payer = i.address
  payee : r.payee = t.counterparty
  amount : r.amount.toInt = t.amount.toInt - t.counterpartyFee.toInt
  fee : r.fee.toInt = t.senderFee.toInt + t.counterpartyFee.toInt

theorem Records.debit {w : Wallet} {t : Transaction} {r : Ledger.Transfer} (h : Records w t r) :
    r.amount.toInt + r.fee.toInt = t.amount.toInt + t.senderFee.toInt := by
  have ha := h.amount
  have hf := h.fee
  omega

theorem Records.respond {w : Wallet} {t : Transaction} {r : Ledger.Transfer} (h : Records w t r)
    (p : Performative) (d : Option Digest) : Records w (t.respond p d) r :=
  ⟨h.payer, h.payee, h.amount, h.fee⟩

namespace State

variable {w : Wallet} {s s' : State} {t : Transaction} {d : Digest}

theorem netAmount?_eq_some_iff {amount : Amount} :
    netAmount? t = some amount ↔ amount.toInt = t.amount.toInt - t.counterpartyFee.toInt :=
  Amount.sub?_eq_some_iff

theorem bothFees?_eq_some_iff {fee : Amount} :
    bothFees? t = some fee ↔ fee.toInt = t.senderFee.toInt + t.counterpartyFee.toInt :=
  Amount.add?_eq_some_iff

theorem settle?_offChain (h : t.isOffChain = true) :
    s.settle? w t = some (s, Digest.ofTransaction t.id) := by
  rw [settle?, if_pos h]

theorem settle?_onChain (h : t.isOffChain = false) :
    s.settle? w t = some (s', d) ↔ ∃ i amount fee l, w.identity? t.ledger = some i ∧
      netAmount? t = some amount ∧ bothFees? t = some fee ∧
      s.ledger.transfer i.ledger i t.counterparty amount fee = .ok (l, d) ∧
      s' = { s with ledger := l } := by
  rw [settle?, if_neg (by simp [h])]
  constructor
  · intro hs
    split at hs
    · rename_i i amount fee hi ha hf
      split at hs
      · rename_i l d' hl
        cases hs
        exact ⟨i, amount, fee, l, hi, ha, hf, hl, rfl⟩
      · cases hs
    · cases hs
  · rintro ⟨i, amount, fee, l, hi, ha, hf, hl, rfl⟩
    simp [hi, ha, hf, hl]

/-- What a settlement on a ledger leaves there, and under which digest. -/
theorem posts_of_settle? (h : t.isOffChain = false) (hs : s.settle? w t = some (s', d)) :
    ∃ r, Records w t r ∧ s.ledger.Posts r s'.ledger ∧ r.digest = s.ledger.nextDigest ∧
      d = r.digest := by
  obtain ⟨i, amount, fee, l, hi, ha, hf, hl, rfl⟩ := (settle?_onChain h).1 hs
  obtain ⟨-, -, hposts, hd⟩ := Ledger.transfer_eq_ok_iff.1 hl
  exact ⟨_, ⟨⟨i, hi, rfl, rfl⟩, rfl, netAmount?_eq_some_iff.1 ha, bothFees?_eq_some_iff.1 hf⟩,
    hposts, rfl, hd⟩

theorem update_ledger (s : State) (u : StateUpdate) : (s.update u).ledger = s.ledger := by
  cases u <;> simp only [update] <;> split <;> rfl

/-! ### Effects of envelopes -/

/-- **The effects of an envelope** on the ledger, by what comes of it: nothing happens there unless
a transaction is accepted that settles on a ledger. Then a transfer that records it is posted under
the digest that is drawn for it, and the answer carries the digest of the transfer. -/
inductive Effect (w : Wallet) (l : Ledger) : Envelope → Outcome → Ledger → Prop
  | dropped {e : Envelope} (h : e.isInternal = false ∨ e.body = .unknown) : Effect w l e .dropped l
  | updated (u : StateUpdate) : Effect w l (.ofBody (.stateUpdate u)) .updated l
  | rejected (t : Transaction) :
    Effect w l (.ofBody (.transaction t)) (.answered (t.respond .reject none)) l
  | offChain {t : Transaction} (h : t.isOffChain = true) :
    Effect w l (.ofBody (.transaction t))
      (.answered (t.respond .accept (some (Digest.ofTransaction t.id)))) l
  | settled {t : Transaction} {r : Ledger.Transfer} {l' : Ledger} (h : t.isOffChain = false)
    (hr : Records w t r) (hp : l.Posts r l') (hd : r.digest = l.nextDigest) :
    Effect w l (.ofBody (.transaction t)) (.answered (t.respond .accept (some r.digest))) l'

/-- The effects of a list of envelopes, one after the other. -/
inductive Effects (w : Wallet) : Ledger → List Envelope → List Outcome → Ledger → Prop
  | nil (l : Ledger) : Effects w l [] [] l
  | cons {l l₁ l' : Ledger} {e : Envelope} {o : Outcome} {es : List Envelope} {os : List Outcome} :
    Effect w l e o l₁ → Effects w l₁ es os l' → Effects w l (e :: es) (o :: os) l'

theorem decide_effect (w : Wallet) (s : State) (t : Transaction) :
    Effect w s.ledger (.ofBody (.transaction t)) (.answered (s.decide w t).2)
      (s.decide w t).1.ledger := by
  unfold decide
  split
  · exact .rejected t
  · split
    · split
      · rename_i s' d hs
        cases h : t.isOffChain with
        | true =>
          rw [settle?_offChain h] at hs
          cases hs
          exact .offChain h
        | false =>
          obtain ⟨r, hr, hp, hd, rfl⟩ := posts_of_settle? h hs
          exact .settled h hr hp hd
      · exact .rejected t
    · exact .rejected t

theorem eq_ofBody {e : Envelope} (h : e.isInternal = true) : e = .ofBody e.body := by
  have hp : e.protocol = Envelope.internalProtocol := by simpa [Envelope.isInternal] using h
  cases e
  cases hp
  rfl

theorem handle_effect (w : Wallet) (s : State) (e : Envelope) :
    Effect w s.ledger e (s.handle w e).2 (s.handle w e).1.ledger := by
  unfold handle
  split
  · rename_i h
    have he := eq_ofBody h
    split
    · rename_i t hb
      rw [he, hb]
      exact decide_effect w s t
    · rename_i u hb
      rw [he, hb, update_ledger]
      exact .updated u
    · rename_i hb
      exact .dropped (.inr hb)
  · rename_i h
    exact .dropped (.inl (by simpa using h))

/-! ### Cycles -/

/-- A run takes the envelopes from the front of the queue and leaves the others. -/
theorem drain_queue (w : Wallet) (s : State) (n : Nat) (q : List Envelope) :
    (s.drain w n q).2.2 = q.drop n := by
  induction n generalizing s q with
  | zero => rfl
  | succ n ih =>
    cases q with
    | nil => rfl
    | cons e q => exact ih (s.handle w e).1 q

theorem drain_effects (w : Wallet) (s : State) (n : Nat) (q : List Envelope) :
    Effects w s.ledger (q.take n) (s.drain w n q).2.1 (s.drain w n q).1.ledger := by
  induction n generalizing s q with
  | zero => exact .nil _
  | succ n ih =>
    cases q with
    | nil => exact .nil _
    | cons e q => exact .cons (handle_effect w s e) (ih (s.handle w e).1 q)

end State

/-! ### The log of a cycle -/

/-- Whether an answer accepts a transaction that settles on a ledger. -/
def isSettlement (a : Transaction) : Bool := a.performative == .accept && !a.isOffChain

/-- The answers among outcomes that accept a transaction on a ledger. -/
def settlements (os : List State.Outcome) : List Transaction :=
  (os.filterMap (·.answer?)).filter isSettlement

theorem settlements_answered (a : Transaction) (os : List State.Outcome) :
    settlements (.answered a :: os) =
      if isSettlement a then a :: settlements os else settlements os := by
  simp only [settlements, List.filterMap_cons, State.Outcome.answer?, List.filter_cons]

theorem isSettlement_accept (t : Transaction) (d : Digest) :
    isSettlement (t.respond .accept (some d)) = !t.isOffChain := rfl

/-- **A transfer backs an answer**: it records the transaction that is accepted, and the answer
carries the digest that is stored with the transfer. -/
structure Backs (w : Wallet) (a : Transaction) (r : Ledger.Transfer) : Prop extends
    Records w a r where
  digest : a.digest = some r.digest

namespace State

variable {w : Wallet} {l l' : Ledger} {es : List Envelope} {os : List Outcome}

/-- The answers that settle on a ledger are backed by the transfers that are logged, in order;
nothing else changes a balance. -/
theorem Effects.exists_transfers (h : Effects w l es os l') :
    ∃ rs, l'.log = l.log ++ rs ∧ List.Forall₂ (Backs w) (settlements os) rs ∧
      ∀ a, l'.held a = l.held a + Ledger.gain rs a := by
  induction h with
  | nil l => exact ⟨[], by simp, .nil, by simp [Ledger.gain]⟩
  | @cons l l₁ l' e o es os he _ ih =>
    obtain ⟨rs, hlog, hrs, hgain⟩ := ih
    -- only the last of the five effects adds a transfer and an answer that settles, both in front
    cases he with
    | dropped | updated | rejected => exact ⟨rs, hlog, hrs, hgain⟩
    | offChain ht =>
      rw [settlements_answered, isSettlement_accept, ht]
      exact ⟨rs, hlog, hrs, hgain⟩
    | @settled t r _ ht hr hp =>
      rw [settlements_answered, isSettlement_accept, ht]
      refine ⟨r :: rs, ?_, .cons ⟨hr.respond _ _, rfl⟩ hrs, fun b => ?_⟩
      · rw [hlog, hp.log_eq, List.append_assoc, List.singleton_append]
      · rw [hgain b, hp.held_eq b]
        simp only [Ledger.gain, List.map_cons, List.sum_cons]
        omega

end State

namespace DecisionMaker

/-- **Settlements of a cycle.** The transfers that a cycle adds to the log are, one for one and in
order, those of the transactions that it accepts on a ledger. Each such answer carries the digest
that is stored with its transfer, which takes from the agent just the amount and the agent's fee,
and no balance changes but by these transfers. Envelope by envelope, what is dropped, updates the
agent, is rejected or settles on no ledger leaves the ledger as it was. -/
theorem execute_settlements (d : DecisionMaker) :
    ∃ rs os,
      d.execute.2 = (Summary.ofOutcomes os, os.filterMap (·.answer?)) ∧
      State.Effects d.wallet d.state.ledger (d.queue.take d.limit) os d.execute.1.state.ledger ∧
      d.execute.1.state.ledger.log = d.state.ledger.log ++ rs ∧
      List.Forall₂
        (fun a r => Records d.wallet a r ∧ a.digest = some r.digest ∧
          r.amount.toInt + r.fee.toInt = a.amount.toInt + a.senderFee.toInt)
        (d.execute.2.2.filter isSettlement) rs ∧
      ∀ a, d.execute.1.state.ledger.held a = d.state.ledger.held a + Ledger.gain rs a := by
  have he := State.drain_effects d.wallet d.state d.limit d.queue
  obtain ⟨rs, hlog, hrs, hgain⟩ := he.exists_transfers
  exact ⟨rs, _, rfl, he, hlog, hrs.imp fun _ _ hr => ⟨hr.toRecords, hr.digest, hr.debit⟩, hgain⟩

end DecisionMaker

end Agent

end Bazaar
