import Bazaar.Json

/-!
Transactions: the exchange of an amount of a currency for quantities of goods between two parties,
as it is proposed, accepted or rejected.
-/

namespace Bazaar

abbrev CurrencyId := String

abbrev GoodId := String

abbrev LedgerId := String

/-- The address of an agent, and of its account on a ledger. -/
abbrev Address := String

abbrev TransactionId := String

/-- What a ledger gives out for a transfer. -/
abbrev Digest := String

/-- Amounts by currency, or quantities by good. -/
abbrev Holdings := SortedMap Amount

/-- The weight of each currency, or of each good, in the score of a bundle. -/
abbrev Weights := SortedMap Double

/-- The ledger id of transactions that settle on no ledger. -/
def offChain : LedgerId := "off_chain"

/-- What a transaction message does. -/
inductive Performative where
  | propose
  | accept
  | reject
deriving DecidableEq

/-- The name of a performative. -/
def Performative.name : Performative → String
  | .propose => "propose"
  | .accept => "accept"
  | .reject => "reject"

/-- Whatever else is said about a transaction: the members of a canonical object. -/
structure Info where
  members : List (String × Json)
  canonical : (Json.object members).isCanonical

namespace Info

/-- Nothing. -/
def empty : Info := ⟨[], by simp [Json.isCanonical, Json.areCanonicalMembers]⟩

/-- What a list of members says, of which the last of several with one name counts. -/
def ofMembers? (members : List (String × Json)) : Option Info :=
  let kept := (SortedMap.ofList (Json.canonicalMembers members)).entries
  if h : (Json.object kept).isCanonical then some ⟨kept, h⟩ else none

def toJson (i : Info) : Json := .object i.members

def ofJson? : Json → Option Info
  | .object members => ofMembers? members
  | _ => none

end Info

/-- A transaction as its sender proposes it, or the verdict on it. -/
structure Transaction where
  performative : Performative
  id : TransactionId
  sender : Address
  counterparty : Address
  /-- The buyer pays the amount and receives the goods. -/
  senderBuys : Bool
  currency : CurrencyId
  amount : Amount
  senderFee : Amount
  counterpartyFee : Amount
  quantities : Holdings
  ledger : LedgerId
  info : Info
  digest : Option Digest

/-- The parties' fees. -/
inductive FeeSide where
  | sender
  | counterparty
deriving DecidableEq

/-- Why a transaction contradicts itself. -/
inductive Inconsistency where
  | selfDealing (party : Address)
  | emptyCurrency
  | negativeAmount (amount : Amount)
  | negativeFee (side : FeeSide) (fee : Amount)
  | missingDigest (id : TransactionId)
deriving DecidableEq

/-- The name of a fee in messages. -/
def FeeSide.name : FeeSide → String
  | .sender => "sender_tx_fee"
  | .counterparty => "counterparty_tx_fee"

def Inconsistency.message : Inconsistency → String
  | .selfDealing party => "sender and counterparty must differ, both are " ++ party
  | .emptyCurrency => "currency id must not be empty"
  | .negativeAmount amount => s!"amount must be non-negative, got {amount}"
  | .negativeFee side fee => side.name ++ s!" must be non-negative, got {fee}"
  | .missingDigest id => "accepted transaction " ++ id ++ " carries no digest"

namespace Transaction

/-- Whether the transaction settles on no ledger. -/
def isOffChain (t : Transaction) : Bool := t.ledger == offChain

/-- The answer to a transaction: the same transaction with another performative and digest. -/
def respond (t : Transaction) (p : Performative) (digest : Option Digest) : Transaction :=
  { t with performative := p, digest }

/-- The first of the ways in which the transaction contradicts itself. -/
def inconsistency? (t : Transaction) : Option Inconsistency :=
  if t.sender = t.counterparty then some (.selfDealing t.sender)
  else if t.currency = "" then some .emptyCurrency
  else if t.amount < 0 then some (.negativeAmount t.amount)
  else if t.senderFee < 0 then some (.negativeFee .sender t.senderFee)
  else if t.counterpartyFee < 0 then some (.negativeFee .counterparty t.counterpartyFee)
  else if t.performative = .accept ∧ t.digest = none then some (.missingDigest t.id)
  else none

end Transaction

end Bazaar
