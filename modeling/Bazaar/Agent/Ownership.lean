import Bazaar.Agent.Fault

/-!
What an agent owns: amounts by currency and quantities by good. A key that is not there reads as
zero. Every change is made in whole or not at all.
-/

namespace Bazaar

namespace Holdings

/-- What is held under a key, zero if nothing is said. -/
def held (h : Holdings) (k : String) : Amount := h.getD k 0

/-- Adds an amount under a key. -/
def add (h : Holdings) (k : String) (delta : Amount) : Except Agent.Fault Holdings := do
  let a ← Agent.figure (.holding k) (Amount.add? (h.held k) delta)
  return h.insert k a

/-- Adds the amounts of a list of entries, in order. -/
def addEntries (h : Holdings) : List (String × Amount) → Except Agent.Fault Holdings
  | [] => .ok h
  | (k, delta) :: es => do (← h.add k delta).addEntries es

/-- Adds key by key. -/
def addAll (h deltas : Holdings) : Except Agent.Fault Holdings := h.addEntries deltas.entries

end Holdings

namespace Agent

/-- Holdings of both kinds, each of which may not be set yet. -/
structure Ownership where
  amounts? : Option Holdings
  goods? : Option Holdings
deriving DecidableEq

namespace Ownership

open MonadExcept (ofExcept)

/-- Nothing set. -/
def unset : Ownership := ⟨none, none⟩

instance : Inhabited Ownership := ⟨unset⟩

/-- The given holdings. -/
def ofHoldings (amounts goods : Holdings) : Ownership := ⟨some amounts, some goods⟩

def isInitialized (o : Ownership) : Bool := o.amounts?.isSome && o.goods?.isSome

/-- The amounts by currency. -/
def amounts (o : Ownership) : Except Fault Holdings := part .amounts o.amounts?

/-- The quantities by good. -/
def goods (o : Ownership) : Except Fault Holdings := part .goods o.goods?

/-- Whether the holdings cover the currency side of a transaction. A buyer has to hold the amount
and the fee; a seller has to hold the fee once the amount has come in. The goods do not matter. -/
def covers (o : Ownership) (t : Transaction) : Except Fault Bool := do
  let amounts ← o.amounts
  let _ ← o.goods
  let held := amounts.held t.currency
  if t.senderBuys then
    let due ← figure .buyerPayable (Amount.add? t.amount t.senderFee)
    return due ≤ held
  else
    let proceeds ← figure .sellerProceeds (Amount.add? held t.amount)
    return t.senderFee ≤ proceeds

/-- The change of the sender's currency: a buyer pays the amount and the fee, a seller gets the
amount less the fee. -/
def currencyDelta (t : Transaction) : Except Fault Amount :=
  if t.senderBuys then
    figure .buyerDelta ((Amount.add? t.amount t.senderFee).bind Amount.neg?)
  else figure .sellerDelta (Amount.sub? t.amount t.senderFee)

/-- The change of one of the sender's goods. -/
def goodDelta (t : Transaction) (good : GoodId) (quantity : Amount) : Except Fault Amount :=
  if t.senderBuys then .ok quantity else figure (.goodDelta good) (Amount.neg? quantity)

/-- The changes of the sender's goods. -/
def goodDeltas (t : Transaction) : Except Fault (List (GoodId × Amount)) :=
  t.quantities.entries.mapM fun e => do return (e.1, ← goodDelta t e.1 e.2)

/-- The holdings after a transaction. -/
def update (o : Ownership) (t : Transaction) : Except Fault Ownership := do
  let delta ← currencyDelta t
  let deltas ← goodDeltas t
  let amounts ← (← o.amounts).add t.currency delta
  let goods ← (← o.goods).addEntries deltas
  return ofHoldings amounts goods

/-- Carries a transaction out in place: all is computed first, and then both holdings are written,
the amounts before the goods. What is written stays written if a fault follows. -/
def updateInPlace (t : Transaction) : EStateM Fault Ownership Unit := do
  let delta ← ofExcept (currencyDelta t)
  let deltas ← ofExcept (goodDeltas t)
  let amounts ← ofExcept (← get).amounts
  let amounts ← ofExcept (amounts.add t.currency delta)
  let goods ← ofExcept (← get).goods
  let goods ← ofExcept (goods.addEntries deltas)
  modify fun o => { o with amounts? := some amounts }
  modify fun o => { o with goods? := some goods }

/-- The holdings after a list of transactions. -/
def apply (o : Ownership) : List Transaction → Except Fault Ownership
  | [] => .ok o
  | t :: ts => do (← o.update t).apply ts

/-- The holdings with the given amounts added. -/
def applyDeltas (o : Ownership) (amounts goods : Holdings) : Except Fault Ownership := do
  let amounts ← (← o.amounts).addAll amounts
  let goods ← (← o.goods).addAll goods
  return ofHoldings amounts goods

end Ownership

end Agent

end Bazaar
