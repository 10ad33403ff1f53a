import Bazaar.Proofs.Agent.Acceptance
import Bazaar.Proofs.Agent.Batching

/-!
Verdicts in the queue of an agent. What a transaction message is matters only in that an acceptance
has to carry a digest: otherwise a verdict is vetted and settled as a proposal is, and so are the
answers of an agent that come back to it. Main statement: when a message makes an agent pay
(`verdict_settles_iff`).
-/

namespace Bazaar

namespace Transaction

/-- The proposal of a transaction, whatever the message says of it. -/
def proposal (t : Transaction) : Transaction := t.respond .propose none

/-- An acceptance that does not say how it was settled. -/
def LacksDigest (t : Transaction) : Prop := t.performative = .accept ∧ t.digest = none

instance (t : Transaction) : Decidable t.LacksDigest := by unfold LacksDigest; infer_instance

theorem inconsistency?_eq_none_iff {t : Transaction} :
    t.inconsistency? = none ↔ t.proposal.inconsistency? = none ∧ ¬ t.LacksDigest := by
  unfold inconsistency? LacksDigest proposal respond
  by_cases h : t.performative = .accept ∧ t.digest = none
  · simp only [h, and_self, not_true, and_false, iff_false]
    split_ifs <;> simp
  · simp only [h, not_false_eq_true, and_true]
    simp

end Transaction

namespace Agent

namespace State

variable {w : Wallet} {s : State} {t : Transaction}

theorem decide_fst (w : Wallet) (s : State) (t : Transaction) :
    (s.decide w t).1 = if t.inconsistency? = none ∧ s.isAcceptable w t = true then
      ((s.settle? w t).map (·.1)).getD s else s := by
  unfold decide
  cases t.inconsistency? with
  | some c => rfl
  | none =>
    cases s.isAcceptable w t with
    | false => rfl
    | true => cases s.settle? w t <;> rfl

/-- **A verdict is handled as its proposal**, if it does not lack a digest. -/
theorem decide_proposal (w : Wallet) (s : State) (t : Transaction) :
    (s.decide w t).1 = if t.LacksDigest then s else (s.decide w t.proposal).1 := by
  have hacceptable : s.isAcceptable w t.proposal = s.isAcceptable w t := rfl
  have hsettle : s.settle? w t.proposal = s.settle? w t := rfl
  rw [decide_fst, decide_fst, hacceptable, hsettle]
  simp only [Transaction.inconsistency?_eq_none_iff (t := t)]
  by_cases h : t.LacksDigest <;> simp [h]

theorem decide_eq_self (h : t.isOffChain = true ∨ (s.decide w t).2.performative ≠ .accept) :
    (s.decide w t).1 = s := by
  rw [decide_fst]
  split
  · rename_i hvetted
    cases hs : s.settle? w t with
    | none => rfl
    | some r =>
      have haccept := (decide_accept_iff w s t).2 ⟨hvetted.1, hvetted.2, r, hs⟩
      have hoff := h.resolve_right fun hne => hne haccept
      rw [settle?_offChain hoff] at hs
      rw [← hs]
      rfl
  · rfl

theorem log_decide_ne_iff :
    (s.decide w t).1.ledger.log ≠ s.ledger.log ↔
      t.isOffChain = false ∧ (s.decide w t).2.performative = .accept := by
  constructor
  · intro hne
    have hself : ¬ (t.isOffChain = true ∨ (s.decide w t).2.performative ≠ .accept) := fun h =>
      hne (by rw [decide_eq_self h])
    rw [not_or, Bool.not_eq_true, not_not] at hself
    exact hself
  · rintro ⟨ht, ha⟩
    obtain ⟨-, r, -, hp⟩ := exists_posts_of_accept ht ha
    rw [hp.log_eq]
    simp

/-! ### Answers -/

theorem not_lacksDigest_decide (w : Wallet) (s : State) (t : Transaction) :
    ¬ (s.decide w t).2.LacksDigest := by
  obtain h | ⟨d, h⟩ := decide_snd w s t <;> simp [h, Transaction.LacksDigest, Transaction.respond]

theorem not_lacksDigest_handle {e : Envelope} {a : Transaction}
    (h : (s.handle w e).2.answer? = some a) : ¬ a.LacksDigest := by
  unfold handle at h
  split at h
  · split at h
    · rw [← Option.some.inj h]
      exact not_lacksDigest_decide w s _
    · cases h
    · cases h
  · cases h

theorem not_lacksDigest_handleAll {es : List Envelope} {a : Transaction}
    (h : a ∈ (s.handleAll w es).2.filterMap (·.answer?)) : ¬ a.LacksDigest := by
  induction es generalizing s with
  | nil => cases h
  | cons e es ih =>
    obtain ⟨o, ho, hanswer⟩ := List.mem_filterMap.1 h
    rw [handleAll_cons] at ho
    rcases List.mem_cons.1 ho with rfl | ho
    · exact not_lacksDigest_handle hanswer
    · exact ih (List.mem_filterMap.2 ⟨o, ho, hanswer⟩)

end State

/-- No answer of a run lacks a digest. -/
theorem DecisionMaker.not_lacksDigest_run {d : DecisionMaker} {ms : List Move} {a : Transaction}
    (h : a ∈ (d.run ms).2.flatMap (·.2)) : ¬ a.LacksDigest := by
  obtain ⟨es, -, -, -, hanswers⟩ := d.exists_handled ms
  rw [hanswers] at h
  exact State.not_lacksDigest_handleAll h

namespace State

/-- **When a message makes an agent pay**, whatever the message is: a verdict is handled just as the
proposal of its transaction, unless it is an acceptance without a digest, which changes nothing. It
is settled on the ledger exactly if the proposal is consistent, does not lower the score and can be
paid. So an answer that comes back to an agent in any later state is another proposal to it. -/
theorem verdict_settles_iff (id : LedgerId) (drawn : Nat → Digest) (rs : List Ledger.Request)
    (w : Wallet) (s₀ : State) (t : Transaction) :
    let s := s₀.withLedger (Ledger.serveAll (.new id drawn) rs)
    (s.handle w (.ofBody (.transaction t))).1 =
      (if t.LacksDigest then s else (s.handle w (.ofBody (.transaction t.proposal))).1) ∧
    ((s.handle w (.ofBody (.transaction t))).1.ledger.log ≠ s.ledger.log ↔
      ¬ t.LacksDigest ∧ t.isOffChain = false ∧ t.proposal.inconsistency? = none ∧
        s.MeetsScore t ∧ s.CanPay w t) ∧
    ∀ (d : DecisionMaker) (ms : List Move), ∀ a ∈ (d.run ms).2.flatMap (·.2),
      (s.handle w (.ofBody (.transaction a))).1 =
        (s.handle w (.ofBody (.transaction a.proposal))).1 := by
  intro s
  have hl : s.ledger.Sound := Ledger.sound_serveAll (.new id drawn) rs
  simp only [handle_transaction]
  refine ⟨decide_proposal w s t, ?_, fun d ms a ha => ?_⟩
  · rw [log_decide_ne_iff, decide_accept_iff_canPay hl, Transaction.inconsistency?_eq_none_iff]
    constructor
    · rintro ⟨ht, ⟨hc, hd⟩, hscore, hpay⟩
      exact ⟨hd, ht, hc, hscore, hpay.resolve_left (by simp [ht])⟩
    · rintro ⟨hd, ht, hc, hscore, hpay⟩
      exact ⟨ht, ⟨hc, hd⟩, hscore, .inr hpay⟩
  · rw [decide_proposal, if_neg (DecisionMaker.not_lacksDigest_run ha)]

/-- A decision maker that has 200 on the ledger. -/
def spender : DecisionMaker :=
  .new "buyer" (.ofIdentities [⟨"l", "a"⟩]) 0
    (Ledger.serveAll (.new "l" .ofNumber) [.mint "a" 200])

/-- It is sent a purchase for 60, and handles it. -/
def spending : List Move := [.send (DecisionMaker.purchase "1"), .execute]

/-- The answer of the purchase, as it comes back. -/
def receipt : Transaction :=
  ⟨.accept, "1", "a", "b", true, "FET", 60, 0, 0, .empty, "l", .empty, some (.ofNumber 0)⟩

theorem receipt_mem_answers : receipt ∈ (spender.run spending).2.flatMap (·.2) := by
  change receipt ∈ [receipt]
  exact List.mem_singleton_self _

theorem verdict_settles_iff_receipt :
    let w := Wallet.ofIdentities [⟨"l", "a"⟩]
    let l := Ledger.new "l" .ofNumber
    let s := (new l).withLedger (Ledger.serveAll l [.mint "a" 200])
    (receipt ∈ (spender.run spending).2.flatMap (·.2) ∧
      (s.handle w (.ofBody (.transaction receipt))).1 =
        (s.handle w (.ofBody (.transaction receipt.proposal))).1) ∧
    (s.handle w (.ofBody (.transaction receipt))).1.ledger.log ≠ s.ledger.log ∧
      s.MeetsScore receipt ∧ s.CanPay w receipt := by
  intro w l s
  obtain ⟨-, hsettles, hback⟩ :=
    verdict_settles_iff "l" .ofNumber [.mint "a" 200] w (new l) receipt
  obtain ⟨-, -, -, hscore, hpay⟩ := hsettles.1 (by decide +kernel)
  have hreplay := hback spender spending receipt receipt_mem_answers
  exact ⟨⟨receipt_mem_answers, hreplay⟩, by decide +kernel, hscore, hpay⟩

/-- It is not so that verdicts transfer nothing, not even those that a decision maker gave itself:
an acceptance that comes back to it is paid again. -/
theorem not_forall_answer_settled_once :
    ¬ ∀ (id : LedgerId) (drawn : Nat → Digest) (rs : List Ledger.Request) (name : String)
        (w : Wallet) (n : Nat) (ms : List Move),
      let r := (DecisionMaker.new name w n (Ledger.serveAll (.new id drawn) rs)).run ms
      ∀ a ∈ r.2.flatMap (·.2),
        (r.1.state.handle r.1.wallet (.ofBody (.transaction a))).1.ledger.log =
          r.1.state.ledger.log := by
  intro h
  have hsame := h "l" .ofNumber [.mint "a" 200] "buyer" (.ofIdentities [⟨"l", "a"⟩]) 0 spending
    receipt receipt_mem_answers
  exact absurd hsame (by decide +kernel)

end State

end Agent

end Bazaar
