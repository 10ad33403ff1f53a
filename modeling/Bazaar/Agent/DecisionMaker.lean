import Bazaar.Agent.Decision

/-!
The decision maker of an agent: a queue of envelopes, worked off in cycles, and the answers to the
transactions among them.
-/

namespace Bazaar.Agent

/-- An agent with its queue. -/
structure DecisionMaker where
  name : String
  wallet : Wallet
  /-- The most envelopes that are handled in a cycle; zero for no limit. -/
  maxReactions : Nat
  queue : List Envelope
  state : State

/-- The counts of a cycle. -/
structure Summary where
  handled : Nat
  dropped : Nat
  accepted : Nat
  rejected : Nat
deriving DecidableEq

namespace State.Outcome

/-- The answer, if there is one. -/
def answer? : Outcome → Option Transaction
  | .answered t => some t
  | _ => none

def isDropped : Outcome → Bool
  | .dropped => true
  | _ => false

def isAccepted : Outcome → Bool
  | .answered t => t.performative == .accept
  | _ => false

def isRejected : Outcome → Bool
  | .answered t => t.performative != .accept
  | _ => false

end State.Outcome

/-- Counts what came of the envelopes of a cycle. -/
def Summary.ofOutcomes (os : List State.Outcome) : Summary where
  handled := os.length
  dropped := os.countP (·.isDropped)
  accepted := os.countP (·.isAccepted)
  rejected := os.countP (·.isRejected)

namespace DecisionMaker

/-- A decision maker with an empty queue. -/
def new (name : String) (w : Wallet) (maxReactions : Nat) (l : Ledger) : DecisionMaker :=
  ⟨name, w, maxReactions, [], .new l⟩

/-- Puts an envelope at the end of the queue. -/
def send (d : DecisionMaker) (e : Envelope) : DecisionMaker := { d with queue := d.queue ++ [e] }

/-- The most envelopes that the next cycle can handle. -/
def limit (d : DecisionMaker) : Nat := if d.maxReactions = 0 then d.queue.length else d.maxReactions

/-- Runs a cycle; the answers are in the order of the queue. -/
def execute (d : DecisionMaker) : DecisionMaker × Summary × List Transaction :=
  let (s, os, q) := d.state.drain d.wallet d.limit d.queue
  ({ d with state := s, queue := q }, .ofOutcomes os, os.filterMap (·.answer?))

end DecisionMaker

end Bazaar.Agent
