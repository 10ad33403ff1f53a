import Bazaar.Proofs.Agent.Settlement
import Bazaar.Proofs.Ledger.Supply

/-!
A ledger that decision makers share, among themselves and with others who mint and transfer. It is
no matter in which states they come to it, nor what they have queued, nor how the ledger stood
when they vetted what they settle. Main statement: the supply is conserved (`supply_conserved`).
-/

namespace Bazaar.Agent

/-- An agent before another ledger. -/
def State.withLedger (s : State) (l : Ledger) : State := { s with ledger := l }

/-- A decision maker before another ledger. -/
def DecisionMaker.withLedger (d : DecisionMaker) (l : Ledger) : DecisionMaker :=
  { d with state := d.state.withLedger l }

/-- What is done with a shared ledger. -/
inductive Use where
  | request (r : Ledger.Request)
  /-- A decision maker runs a cycle. -/
  | cycle (d : DecisionMaker)
  /-- An agent settles a transaction that it vetted at any earlier time. -/
  | settle (w : Wallet) (t : Transaction)

/-- The ledger after it was used. -/
def Use.apply (l : Ledger) : Use → Ledger
  | .request r => l.serve r
  | .cycle d => (d.withLedger l).execute.1.state.ledger
  | .settle w t =>
    match (State.new l).settle? w t with
    | some r => r.1.ledger
    | none => l

/-- The ledger that comes of a list of uses, beginning with an empty one. -/
def Use.run (id : LedgerId) (drawn : Nat → Digest) (us : List Use) : Ledger :=
  us.foldl Use.apply (.new id drawn)

/-! ### Sound books stay sound -/

theorem State.Effect.sound {w : Wallet} {l l' : Ledger} {e : Envelope} {o : Outcome}
    (h : Effect w l e o l') (hl : l.Sound) : l'.Sound := by
  cases h with
  | dropped | updated | rejected | offChain => exact hl
  | settled _ _ hp => exact hl.posts hp

theorem State.Effects.sound {w : Wallet} {l l' : Ledger} {es : List Envelope} {os : List Outcome}
    (h : Effects w l es os l') (hl : l.Sound) : l'.Sound := by
  induction h with
  | nil => exact hl
  | cons he _ ih => exact ih (he.sound hl)

theorem State.sound_settle? {w : Wallet} {s s' : State} {t : Transaction} {d : Digest}
    (hs : s.settle? w t = some (s', d)) (hl : s.ledger.Sound) : s'.ledger.Sound := by
  cases h : t.isOffChain with
  | true =>
    rw [settle?_offChain h] at hs
    cases hs
    exact hl
  | false =>
    obtain ⟨r, -, hp, -⟩ := posts_of_settle? h hs
    exact hl.posts hp

theorem Use.sound_apply {l : Ledger} (hl : l.Sound) (u : Use) : (u.apply l).Sound := by
  cases u with
  | request r => exact hl.serve r
  | cycle d =>
    let d' := d.withLedger l
    exact (State.drain_effects d'.wallet d'.state d'.limit d'.queue).sound hl
  | settle w t =>
    simp only [apply]
    split
    · rename_i r hr
      obtain ⟨s', d⟩ := r
      exact State.sound_settle? hr hl
    · exact hl

theorem Use.sound_run (id : LedgerId) (drawn : Nat → Digest) (us : List Use) :
    (run id drawn us).Sound := by
  have hrun : ∀ l : Ledger, l.Sound → (us.foldl apply l).Sound := by
    induction us with
    | nil => exact fun _ hl => hl
    | cons u us ih => exact fun l hl => ih _ (sound_apply hl u)
  exact hrun _ (.new id drawn)

/-- **The supply is conserved.** Whatever is minted, transferred and settled by whomever, in
whatever order and with whatever outcome: no balance is negative, nor any amount or fee of the
log; what was minted is what is held and what was paid as fees; and the audit finds so. -/
theorem supply_conserved (id : LedgerId) (drawn : Nat → Digest) (us : List Use) :
    let l := Use.run id drawn us
    (∀ a b, l.balance? a = some b → 0 ≤ b) ∧
    (∀ t ∈ l.log, 0 ≤ t.amount ∧ 0 ≤ t.fee) ∧
    l.minted.toInt = Amount.total l.balances.values + Amount.total (l.log.map (·.fee)) ∧
    l.finding = .balanced := by
  intro l
  have h : l.Sound := Use.sound_run id drawn us
  refine ⟨fun a b hb => ?_, fun t ht => ?_, h.supply, h.finding_eq_balanced⟩
  · exact Amount.nonneg_iff.2 (h.balance_nonneg hb)
  · obtain ⟨ha, hf⟩ := h.log_nonneg t ht
    exact ⟨Amount.nonneg_iff.2 ha, Amount.nonneg_iff.2 hf⟩

end Bazaar.Agent
