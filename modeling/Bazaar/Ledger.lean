import Bazaar.Wallet
import Bazaar.Ledger.Audit

/-!
A ledger: the balances of accounts, what was ever minted, and the log of all transfers. A request
that is refused changes nothing.

Digests are drawn at random. A ledger is given what is drawn for its log, so that what holds of all
ledgers holds whatever is drawn.
-/

namespace Bazaar

/-- A ledger under one id. The log is in the order of settlement. -/
structure Ledger where
  id : LedgerId
  /-- The digest that is drawn for the transfer at each position of the log. What is drawn for one
  that is refused is seen by nobody. -/
  drawn : Nat → Digest
  balances : Holdings
  minted : Amount
  log : List Ledger.Transfer

namespace Ledger

/-- A ledger on which nothing has happened, with the digests that its transfers will get. -/
def new (id : LedgerId) (drawn : Nat → Digest) : Ledger := ⟨id, drawn, .empty, 0, []⟩

/-- The digest for the next transfer. -/
def nextDigest (l : Ledger) : Digest := l.drawn l.log.length

/-- The balance of an address that ever had an account. -/
def balance? (l : Ledger) (a : Address) : Option Amount := l.balances.get? a

/-- Refuses a request for another ledger. -/
def checkId (l : Ledger) (id : LedgerId) : Except Refusal Unit :=
  if id = l.id then .ok () else .error (.unknownLedger id)

/-- Makes new tokens; the answer is the new balance. -/
def mint (l : Ledger) (a : Address) (amount : Amount) : Except Refusal (Ledger × Amount) := do
  if amount < 0 then throw (.negativeAmount amount)
  else
    let minted ← figure .supply (Amount.add? l.minted amount)
    let balance ← figure .mintBalance (Amount.add? ((l.balance? a).getD 0) amount)
    return ({ l with minted, balances := l.balances.insert a balance }, balance)

/-- The balance of an account on the ledger of the given id. -/
def tokenBalance (l : Ledger) (id : LedgerId) (a : Address) : Except Refusal Amount := do
  l.checkId id
  match l.balance? a with
  | some b => return b
  | none => throw (.unknownAccount id a)

/-- Moves the amount of a transfer to the payee, takes amount and fee from the payer, and logs it;
the answer is its digest. -/
def settle (l : Ledger) (t : Transfer) : Except Refusal (Ledger × Digest) := do
  let required ← figure .total t.total?
  let available := (l.balance? t.payer).getD 0
  if available < required then throw (.insufficientBalance t.payer required available)
  else
    let payer ← figure .payerBalance (Amount.sub? available required)
    let payee ← figure .payeeBalance (Amount.add? ((l.balance? t.payee).getD 0) t.amount)
    return ({ l with
      balances := (l.balances.insert t.payer payer).insert t.payee payee
      log := l.log ++ [t] }, t.digest)

/-- Transfers an amount from an identity on the ledger of the given id; the answer is the digest of
the transfer. -/
def transfer (l : Ledger) (id : LedgerId) (payer : Identity) (payee : Address)
    (amount fee : Amount) : Except Refusal (Ledger × Digest) := do
  l.checkId id
  l.checkId payer.ledger
  let t ← Draft.check ⟨id, some payer.address, some payee, some amount, fee⟩ l.nextDigest
  l.settle t

/-- The audit of the ledger. -/
def finding (l : Ledger) : Finding := audit l.minted l.balances.values (l.log.map (·.fee))

/-- Mints a list of amounts, in order. -/
def mintAll (l : Ledger) : List (Address × Amount) → Except Refusal Ledger
  | [] => .ok l
  | (a, amount) :: es => do (← l.mint a amount).1.mintAll es

/-! ### Requests in place

The same requests as they are carried out on a ledger that others share: the books are read first
and then written one after the other, and what is written stays written if a refusal follows. -/

open MonadExcept (ofExcept)

/-- Makes new tokens in place; the answer is the new balance. -/
def mintInPlace (a : Address) (amount : Amount) : EStateM Refusal Ledger Amount :=
  if amount < 0 then throw (.negativeAmount amount)
  else do
    let minted ← ofExcept (figure .supply (Amount.add? (← get).minted amount))
    let balance ← ofExcept (figure .mintBalance (Amount.add? (((← get).balance? a).getD 0) amount))
    modify fun l => { l with minted }
    modify fun l => { l with balances := l.balances.insert a balance }
    return balance

/-- Settles a transfer in place; the answer is its digest. -/
def settleInPlace (t : Transfer) : EStateM Refusal Ledger Digest := do
  let required ← ofExcept (figure .total t.total?)
  let available := ((← get).balance? t.payer).getD 0
  if available < required then throw (.insufficientBalance t.payer required available)
  else
    let payer ← ofExcept (figure .payerBalance (Amount.sub? available required))
    let payee ← ofExcept
      (figure .payeeBalance (Amount.add? (((← get).balance? t.payee).getD 0) t.amount))
    modify fun l => { l with balances := l.balances.insert t.payer payer }
    modify fun l => { l with balances := l.balances.insert t.payee payee }
    modify fun l => { l with log := l.log ++ [t] }
    return t.digest

/-- Transfers an amount in place; the answer is the digest of the transfer. -/
def transferInPlace (id : LedgerId) (payer : Identity) (payee : Address) (amount fee : Amount) :
    EStateM Refusal Ledger Digest := do
  ofExcept ((← get).checkId id)
  ofExcept ((← get).checkId payer.ledger)
  let draft : Draft := ⟨id, some payer.address, some payee, some amount, fee⟩
  settleInPlace (← ofExcept (draft.check (← get).nextDigest))

end Ledger

end Bazaar
