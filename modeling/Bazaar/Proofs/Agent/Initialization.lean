import Bazaar.Proofs.Agent.Holdings
import Bazaar.Proofs.Agent.SharedLedger

/-!
How an agent is initialized. An envelope changes what the agent knows in one of two ways, if at all
(`Learns`): it endows the agent, or it adjusts the holdings of an agent that was endowed before.
Main statement: holdings, preferences and readiness are set together and once and for all
(`initialization_coherent`).
-/

namespace Bazaar.Agent

/-! ### Setting preferences -/

namespace Preferences

theorem init_of_isInitialized {p : Preferences} (h : p.isInitialized = true)
    (exchange utility : Weights) (fee : Amount) : p.init exchange utility fee = .ok (p, false) := by
  rw [init, if_pos h]
  rfl

theorem init_of_not_isInitialized {p : Preferences} (h : p.isInitialized = false)
    (exchange utility : Weights) (fee : Amount) :
    p.init exchange utility fee = (Fees.split fee).map fun fees =>
      ({ p with exchange? := some exchange, utility? := some utility, fees? := some fees },
        true) := by
  rw [init, if_neg (by simp [h])]
  cases Fees.split fee <;> rfl

/-- Preferences that were set stay, and others are set in whole. -/
theorem init_eq_ok {p q : Preferences} {exchange utility : Weights} {fee : Amount} {done : Bool}
    (h : p.init exchange utility fee = .ok (q, done)) :
    q.isInitialized = true ∧ (p.isInitialized = true → q = p) := by
  cases hp : p.isInitialized with
  | true =>
    rw [init_of_isInitialized hp] at h
    cases h
    exact ⟨hp, fun _ => rfl⟩
  | false =>
    rw [init_of_not_isInitialized hp] at h
    cases hfees : Fees.split fee with
    | error f =>
      rw [hfees] at h
      cases h
    | ok fees =>
      rw [hfees] at h
      cases h
      exact ⟨rfl, nofun⟩

end Preferences

/-- Only holdings of both kinds can be adjusted, and they are still of both kinds. -/
theorem Ownership.applyDeltas_eq_ok {o o' : Ownership} {amounts goods : Holdings}
    (h : o.applyDeltas amounts goods = .ok o') :
    o.isInitialized = true ∧ o'.isInitialized = true := by
  obtain ⟨a, g, a', g', rfl, -, -, rfl⟩ := applyDeltas_eq_ok_iff.1 h
  exact ⟨rfl, rfl⟩

namespace State

/-! ### What an envelope changes -/

/-- **What an agent learns from an envelope**, on whatever ledger it works. -/
inductive Learns (s : State) (e : Envelope) (s' : State) : Prop
  | nothing (ownership : s'.ownership = s.ownership) (preferences : s'.preferences = s.preferences)
    (ready : s'.ready = s.ready)
  | endowed {amounts goods : Holdings} {exchange utility : Weights} {fee : Amount} {done : Bool}
    (body : e = .ofBody (.stateUpdate (.endow amounts goods exchange utility fee)))
    (ownership : s'.ownership = .ofHoldings amounts goods)
    (preferences : s.preferences.init exchange utility fee = .ok (s'.preferences, done))
    (ready : s'.ready = true)
  | adjusted {amounts goods : Holdings} (body : e = .ofBody (.stateUpdate (.apply amounts goods)))
    (ownership : s.ownership.applyDeltas amounts goods = .ok s'.ownership)
    (preferences : s'.preferences = s.preferences) (ready : s'.ready = s.ready)

theorem settle?_eq_withLedger {w : Wallet} {s s' : State} {t : Transaction} {d : Digest}
    (h : s.settle? w t = some (s', d)) : s' = s.withLedger s'.ledger := by
  cases ht : t.isOffChain with
  | true =>
    rw [settle?_offChain ht] at h
    cases h
    rfl
  | false =>
    obtain ⟨i, amount, fee, l, -, -, -, -, rfl⟩ := (settle?_onChain ht).1 h
    rfl

/-- An answer changes nothing but the ledger. -/
theorem decide_eq_withLedger (w : Wallet) (s : State) (t : Transaction) :
    (s.decide w t).1 = s.withLedger (s.decide w t).1.ledger := by
  unfold decide
  split
  · rfl
  · split
    · split
      · rename_i s' d hs
        exact settle?_eq_withLedger hs
      · rfl
    · rfl

theorem learns_update (s : State) (l : Ledger) (u : StateUpdate) :
    Learns s (.ofBody (.stateUpdate u)) ((s.withLedger l).update u) := by
  cases u with
  | endow amounts goods exchange utility fee =>
    rw [update]
    split
    · rename_i p done hp
      exact .endowed rfl rfl hp rfl
    · exact .nothing rfl rfl rfl
  | apply amounts goods =>
    rw [update]
    split
    · rename_i o ho
      exact .adjusted rfl ho rfl rfl
    · exact .nothing rfl rfl rfl

/-- It is no matter for what an agent learns on which ledger it works. -/
theorem learns_handle (w : Wallet) (s : State) (l : Ledger) (e : Envelope) :
    Learns s e ((s.withLedger l).handle w e).1 := by
  unfold handle
  split
  · rename_i h
    have he := eq_ofBody h
    split
    · rename_i t _
      change Learns s e ((s.withLedger l).decide w t).1
      rw [decide_eq_withLedger]
      exact .nothing rfl rfl rfl
    · rename_i u hb
      rw [he, hb]
      exact learns_update s l u
    · exact .nothing rfl rfl rfl
  · exact .nothing rfl rfl rfl

/-! ### Coherent states -/

/-- **A coherent state**: all of it is set, or none. -/
inductive Coherent (s : State) : Prop
  | unset (ready : s.ready = false) (ownership : s.ownership = .unset)
    (preferences : s.preferences = .unset)
  | set (ready : s.ready = true) (ownership : s.ownership.isInitialized = true)
    (preferences : s.preferences.isInitialized = true)

theorem Learns.coherent {s s' : State} {e : Envelope} (h : Learns s e s') (hs : s.Coherent) :
    s'.Coherent := by
  cases h with
  | nothing ho hp hr =>
    cases hs with
    | unset hready hownership hpreferences =>
      exact .unset (hr.trans hready) (ho.trans hownership) (hp.trans hpreferences)
    | set hready hownership hpreferences =>
      exact .set (hr.trans hready) (ho ▸ hownership) (hp ▸ hpreferences)
  | endowed _ ho hp hr =>
    refine .set hr ?_ (Preferences.init_eq_ok hp).1
    rw [ho]
    rfl
  | adjusted _ ho hp hr =>
    obtain ⟨hwas, his⟩ := Ownership.applyDeltas_eq_ok ho
    cases hs with
    | unset _ hownership _ =>
      rw [hownership] at hwas
      cases hwas
    | set hready _ hpreferences => exact .set (hr.trans hready) his (hp ▸ hpreferences)

/-- The state after an endowment. One that is ready takes the holdings; another takes all that it is
given, unless the fee cannot be divided. -/
def endowed (s : State) (amounts goods : Holdings) (exchange utility : Weights) (fee : Amount) :
    State :=
  if s.ready then { s with ownership := .ofHoldings amounts goods }
  else
    match Fees.split fee with
    | .ok fees =>
      { s with
        ownership := .ofHoldings amounts goods
        preferences := ⟨some exchange, some utility, some fees, s.preferences.shift⟩
        ready := true }
    | .error _ => s

/-- **An endowment of a coherent state** is carried out in whole, or not at all. -/
theorem Coherent.update_endow {s : State} (hs : s.Coherent) (amounts goods : Holdings)
    (exchange utility : Weights) (fee : Amount) :
    s.update (.endow amounts goods exchange utility fee) =
      s.endowed amounts goods exchange utility fee := by
  cases hs with
  | unset hready _ hpreferences =>
    have hinit : s.preferences.isInitialized = false := by
      rw [hpreferences]
      rfl
    rw [update, Preferences.init_of_not_isInitialized hinit, endowed, if_neg (by simp [hready])]
    cases Fees.split fee <;> rfl
  | set hready _ hpreferences =>
    rw [update, Preferences.init_of_isInitialized hpreferences, endowed, if_pos hready, ← hready]

/-- **A state that settles what was set before**: an agent that is ready stays so, and preferences
that are set do not change. -/
structure Settles (s s' : State) : Prop where
  ready : s.ready = true → s'.ready = true
  preferences : s.preferences.isInitialized = true → s'.preferences = s.preferences

theorem Settles.trans {s s' s'' : State} (h : Settles s s') (h' : Settles s' s'') :
    Settles s s'' where
  ready hr := h'.ready (h.ready hr)
  preferences hp := by
    have hp' := h.preferences hp
    rw [h'.preferences (hp' ▸ hp), hp']

theorem Learns.settles {s s' : State} {e : Envelope} (h : Learns s e s') : Settles s s' := by
  cases h with
  | nothing _ hp hr => exact ⟨fun h => hr.trans h, fun _ => hp⟩
  | endowed _ _ hp hr => exact ⟨fun _ => hr, (Preferences.init_eq_ok hp).2⟩
  | adjusted _ _ hp hr => exact ⟨fun h => hr.trans h, fun _ => hp⟩

/-! ### Runs -/

/-- The state after envelopes, each handled on the ledger as others have left it by then. -/
def after (w : Wallet) (s : State) (es : List (Ledger × Envelope)) : State :=
  es.foldl (fun s e => ((s.withLedger e.1).handle w e.2).1) s

theorem coherent_after (w : Wallet) {s : State} (hs : s.Coherent) (es : List (Ledger × Envelope)) :
    (s.after w es).Coherent := by
  induction es generalizing s with
  | nil => exact hs
  | cons e es ih => exact ih ((learns_handle w s e.1 e.2).coherent hs)

theorem settles_after (w : Wallet) (s : State) (es : List (Ledger × Envelope)) :
    Settles s (s.after w es) := by
  induction es generalizing s with
  | nil => exact ⟨fun h => h, fun _ => rfl⟩
  | cons e es ih => exact (learns_handle w s e.1 e.2).settles.trans (ih _)

/-- **Initialization is coherent.** In every state that a new agent comes to, by whatever envelopes
and whatever others do with the ledger, it is ready just if its holdings are set and just if its
preferences are. It stays ready, and its preferences stay as they are. And an endowment is carried
out in whole, with the preferences kept if they were set; or, if its fee would have to be divided
and cannot be, it changes nothing. -/
theorem initialization_coherent (w : Wallet) (l : Ledger) (es : List (Ledger × Envelope)) :
    let s := (new l).after w es
    (s.ready = true ↔ s.ownership.isInitialized = true) ∧
    (s.ownership.isInitialized = true ↔ s.preferences.isInitialized = true) ∧
    (∀ fs, s.ready = true → (s.after w fs).ready = true) ∧
    (∀ fs, s.preferences.isInitialized = true → (s.after w fs).preferences = s.preferences) ∧
    ∀ amounts goods exchange utility fee,
      s.handle w (.ofBody (.stateUpdate (.endow amounts goods exchange utility fee))) =
        (s.endowed amounts goods exchange utility fee, .updated) := by
  intro s
  have hs : s.Coherent := coherent_after w (.unset rfl rfl rfl) es
  refine ⟨?_, ?_, fun fs => (settles_after w s fs).ready,
    fun fs => (settles_after w s fs).preferences, ?_⟩
  · cases hs with
    | unset hready hownership _ => rw [hready, hownership]; decide
    | set hready hownership _ => rw [hready, hownership]
  · cases hs with
    | unset _ hownership hpreferences => rw [hownership, hpreferences]; decide
    | set _ hownership hpreferences => rw [hownership, hpreferences]
  · intro amounts goods exchange utility fee
    rw [← hs.update_endow]
    simp [handle, Envelope.isInternal, Envelope.ofBody]

/-- An endowment with nothing but a fee, on a ledger on which nothing has happened. -/
def endowment (fee : Amount) : Ledger × Envelope :=
  (.new "l" .ofNumber, .ofBody (.stateUpdate (.endow .empty .empty .empty .empty fee)))

/-- Of three endowments the first has a fee that cannot be divided, and the last comes too late to
set preferences. -/
theorem initialization_coherent_endowments :
    let s := (new (.new "l" .ofNumber)).after .empty [endowment Amount.greatest, endowment 11]
    (s.ready = true ∧ s.preferences.isInitialized = true ∧ s.preferences.fees? = some ⟨6, 5⟩) ∧
      (s.after .empty [endowment 20]).ready = true ∧
      (s.after .empty [endowment 20]).preferences = s.preferences := by
  intro s
  have hready : s.ready = true := by decide +kernel
  have hset : s.preferences.isInitialized = true := by decide +kernel
  obtain ⟨-, -, hstays, hkeeps, -⟩ := initialization_coherent .empty (.new "l" .ofNumber)
    [endowment Amount.greatest, endowment 11]
  exact ⟨⟨hready, hset, by decide +kernel⟩, hstays _ hready, hkeeps _ hset⟩

end State

end Bazaar.Agent
