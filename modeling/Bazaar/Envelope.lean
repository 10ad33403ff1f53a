import Bazaar.Transaction

/-!
Envelopes: what is put into the queue of an agent. Only those of the internal protocol are
handled.
-/

namespace Bazaar

/-- A change of what an agent holds. -/
inductive StateUpdate where
  /-- Sets the holdings, and the weights and the fee if they are not set yet. -/
  | endow (amounts goods : Holdings) (exchange utility : Weights) (fee : Amount)
  /-- Adds to the holdings. -/
  | apply (amounts goods : Holdings)

/-- What an envelope holds. -/
inductive Body where
  | transaction (t : Transaction)
  | stateUpdate (u : StateUpdate)
  /-- A body of a kind that is not known. -/
  | unknown

/-- A message, and the protocol that it belongs to. -/
structure Envelope where
  protocol : String
  body : Body

namespace StateUpdate

/-- The two kinds of update. -/
inductive Kind where
  | endow
  | apply
deriving DecidableEq

/-- The name of a kind of update. -/
def Kind.name : Kind → String
  | .endow => "initialize"
  | .apply => "apply"

/-- The kind of an update. -/
def kind : StateUpdate → Kind
  | .endow .. => .endow
  | .apply .. => .apply

end StateUpdate

namespace Envelope

/-- The protocol whose envelopes are handled. -/
def internalProtocol : String := "internal"

/-- A body under the internal protocol. -/
def ofBody (b : Body) : Envelope := ⟨internalProtocol, b⟩

def isInternal (e : Envelope) : Bool := e.protocol == internalProtocol

end Envelope

end Bazaar
