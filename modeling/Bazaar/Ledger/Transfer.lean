import Bazaar.Identifier

/-!
Transfers on a ledger: what a draft must give, and why a ledger refuses a request. The fee is paid
by the payer on top of the amount and goes to nobody.
-/

namespace Bazaar.Ledger

/-- The figures of a ledger that can leave the range of amounts. -/
inductive Figure where
  | supply
  | mintBalance
  | total
  | payerBalance
  | payeeBalance
deriving DecidableEq

/-- The name of a figure in messages. -/
def Figure.name : Figure → String
  | .supply => "minted supply"
  | .mintBalance => "mint balance"
  | .total => "transfer total"
  | .payerBalance => "sender balance"
  | .payeeBalance => "receiver balance"

/-- What a draft of a transfer must give. -/
inductive Entry where
  | payer
  | payee
  | amount
deriving DecidableEq

/-- The name of an entry in messages. -/
def Entry.name : Entry → String
  | .payer => "from"
  | .payee => "to"
  | .amount => "amount"

/-- Why a request is refused. -/
inductive Refusal where
  | unknownLedger (ledger : LedgerId)
  | unknownAccount (ledger : LedgerId) (address : Address)
  | insufficientBalance (address : Address) (required available : Amount)
  | negativeAmount (amount : Amount)
  | negativeFee (fee : Amount)
  | selfTransfer (address : Address)
  | missing (entry : Entry)
  | overflow (figure : Figure)
deriving DecidableEq

def Refusal.message : Refusal → String
  | .unknownLedger ledger => "unknown ledger: " ++ ledger
  | .unknownAccount ledger address => "unknown account " ++ address ++ " on ledger " ++ ledger
  | .insufficientBalance address required available =>
    "insufficient balance for " ++ address ++ s!": required {required}, available {available}"
  | .negativeAmount amount => s!"transfer amount must be non-negative, got {amount}"
  | .negativeFee fee => s!"transfer fee must be non-negative, got {fee}"
  | .selfTransfer address => "cannot transfer from " ++ address ++ " to itself"
  | .missing entry => "missing required field: " ++ entry.name
  | .overflow figure => "arithmetic overflow: " ++ figure.name

/-- A figure, or the refusal because it left the range. -/
def figure (f : Figure) : Option Amount → Except Refusal Amount
  | some a => .ok a
  | none => .error (.overflow f)

/-- A transfer as it stands in the log of a ledger. The time at which it was made is left out:
nothing reads it. -/
structure Transfer where
  digest : Digest
  ledger : LedgerId
  payer : Address
  payee : Address
  amount : Amount
  fee : Amount
deriving DecidableEq

/-- What the payer pays in all. -/
def Transfer.total? (t : Transfer) : Option Amount := Amount.add? t.amount t.fee

/-- A transfer of which not all is given yet. -/
structure Draft where
  ledger : LedgerId
  payer : Option Address
  payee : Option Address
  amount : Option Amount
  fee : Amount

/-- An entry of a draft, or the refusal because it is missing. -/
def Draft.entry {α : Type} (e : Entry) : Option α → Except Refusal α
  | some a => .ok a
  | none => .error (.missing e)

/-- The transfer of a draft under a digest: two different parties, no negative figure. -/
def Draft.check (d : Draft) (digest : Digest) : Except Refusal Transfer := do
  let payer ← entry .payer d.payer
  let payee ← entry .payee d.payee
  let amount ← entry .amount d.amount
  if amount < 0 then throw (.negativeAmount amount)
  else if d.fee < 0 then throw (.negativeFee d.fee)
  else if payer = payee then throw (.selfTransfer payer)
  else return ⟨digest, d.ledger, payer, payee, amount, d.fee⟩

end Bazaar.Ledger
