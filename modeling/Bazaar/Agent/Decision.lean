import Bazaar.Envelope
import Bazaar.Agent.Preferences
import Bazaar.Ledger

/-!
How an agent decides on one envelope. A transaction is accepted if it is consistent, does not
lower the agent's score and can be paid, and then it is settled; a state update changes the
holdings, and sets the preferences the first time.
-/

namespace Bazaar.Agent

/-- What the decisions of an agent change: its own state, and the ledger on which it settles. -/
structure State where
  ownership : Ownership
  preferences : Preferences
  /-- Whether the agent has been initialized. -/
  ready : Bool
  ledger : Ledger

namespace State

/-- An agent that was told nothing yet, before a ledger. -/
def new (l : Ledger) : State := ⟨.unset, .unset, false, l⟩

/-! ### Transactions -/

/-- Whether a transaction does not lower the score. Before the agent is initialized there is no
score to lower; a score that cannot be computed counts against the transaction. -/
def isWorthwhile (s : State) (t : Transaction) : Bool :=
  if s.ownership.isInitialized && s.preferences.isInitialized then
    match s.preferences.scoreChange s.ownership t with
    | .ok x => 0 ≤ x
    | .error _ => false
  else true

/-- The amount that goes to the counterparty: what is agreed, less the counterparty's fee. -/
def netAmount? (t : Transaction) : Option Amount := Amount.sub? t.amount t.counterpartyFee

/-- The fee of the transfer: both parties' fees. -/
def bothFees? (t : Transaction) : Option Amount := Amount.add? t.senderFee t.counterpartyFee

/-- What the agent pays in all. -/
def payable? (t : Transaction) : Option Amount := do
  Amount.add? (← netAmount? t) (← bothFees? t)

/-- Whether the agent can pay a transaction from its account on the ledger that it names. What
settles on no ledger can always be paid. -/
def isAffordable (w : Wallet) (s : State) (t : Transaction) : Bool :=
  t.isOffChain ||
    match w.identity? t.ledger, payable? t with
    | some i, some due =>
      match s.ledger.tokenBalance i.ledger i.address with
      | .ok balance => due ≤ balance
      | .error _ => false
    | _, _ => false

def isAcceptable (w : Wallet) (s : State) (t : Transaction) : Bool :=
  s.isWorthwhile t && s.isAffordable w t

/-- Settles a transaction, if the ledger does not refuse; the answer is the digest. -/
def settle? (w : Wallet) (s : State) (t : Transaction) : Option (State × Digest) :=
  if t.isOffChain then some (s, Digest.ofTransaction t.id)
  else
    match w.identity? t.ledger, netAmount? t, bothFees? t with
    | some i, some amount, some fee =>
      match s.ledger.transfer i.ledger i t.counterparty amount fee with
      | .ok (l, d) => some ({ s with ledger := l }, d)
      | .error _ => none
    | _, _, _ => none

/-- Answers a transaction. -/
def decide (w : Wallet) (s : State) (t : Transaction) : State × Transaction :=
  if t.inconsistency?.isSome then (s, t.respond .reject none)
  else if s.isAcceptable w t then
    match s.settle? w t with
    | some (s, d) => (s, t.respond .accept (some d))
    | none => (s, t.respond .reject none)
  else (s, t.respond .reject none)

/-! ### State updates -/

/-- Takes in a state update. One that cannot be carried out changes nothing. -/
def update (s : State) : StateUpdate → State
  | .endow amounts goods exchange utility fee =>
    match s.preferences.init exchange utility fee with
    | .ok (p, _) =>
      { s with ownership := .ofHoldings amounts goods, preferences := p, ready := true }
    | .error _ => s
  | .apply amounts goods =>
    match s.ownership.applyDeltas amounts goods with
    | .ok o => { s with ownership := o }
    | .error _ => s

/-! ### Envelopes -/

/-- What came of an envelope. -/
inductive Outcome where
  | dropped
  | updated
  | answered (t : Transaction)

/-- Handles an envelope. Those of other protocols and of unknown kinds are dropped. -/
def handle (w : Wallet) (s : State) (e : Envelope) : State × Outcome :=
  if e.isInternal then
    match e.body with
    | .transaction t => let (s, answer) := s.decide w t; (s, .answered answer)
    | .stateUpdate u => (s.update u, .updated)
    | .unknown => (s, .dropped)
  else (s, .dropped)

/-- Handles envelopes from the front of a queue, at most a given number of them: the state after
it, what came of each, and what is left of the queue. -/
def drain (w : Wallet) (s : State) : Nat → List Envelope → State × List Outcome × List Envelope
  | 0, q => (s, [], q)
  | _ + 1, [] => (s, [], [])
  | n + 1, e :: q =>
    let (s, o) := s.handle w e
    let (s, os, q) := s.drain w n q
    (s, o :: os, q)

end State

end Bazaar.Agent
