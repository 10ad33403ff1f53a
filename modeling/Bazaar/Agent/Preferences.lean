import Bazaar.Agent.Ownership

/-!
What an agent prefers: a weight for each currency and each good, and its share of the fees. A
bundle scores the sum of a linear utility of its currencies and a logarithmic utility of its goods.
Once set, preferences do not change.
-/

namespace Bazaar.Agent

/-- A fee divided between buyer and seller. -/
structure Fees where
  buyer : Amount
  seller : Amount
deriving DecidableEq

namespace Fees

/-- The buyer's share of a fee in percent; the rest is the seller's. -/
def buyerPercent : Amount := 50

/-- A share of a fee in percent, rounded up. -/
def share (fee percent : Amount) : Except Fault Amount := do
  let scaled ← figure .feeShare (Amount.mul? fee percent)
  let quotient ← figure .feeShare (Amount.ofInt? (scaled.toInt / 100))
  if scaled.toInt % 100 = 0 then return quotient
  else figure .feeShare (Amount.add? quotient 1)

/-- Divides a fee. Both shares are rounded up; if this is too much, the seller's is one less. -/
def split (fee : Amount) : Except Fault Fees := do
  let buyer ← share fee buyerPercent
  let seller ← share fee (100 - buyerPercent)
  let total ← figure .feeTotal (Amount.add? buyer seller)
  if fee < total then return ⟨buyer, ← figure .sellerCorrection (Amount.sub? seller 1)⟩
  else return ⟨buyer, seller⟩

end Fees

/-! ### Utility -/

/-- What a good counts whose shifted quantity is not positive. -/
def floorUtility : Float := -10000.0

/-- What a quantity of a good counts under a weight: the weight times the logarithm of the shifted
quantity. -/
def goodUtility (weight : Float) (quantity shift : Amount) : Float :=
  match Amount.add? quantity shift with
  | some a => if 0 < a then weight * a.toFloat.log else floorUtility
  | none => floorUtility

/-- The weight of a key, zero if there is none. -/
def weight (w : Weights) (k : String) : Float := (w.getD k .zero).toFloat

/-- Adds up what the entries of a bundle count, in the order of the keys. -/
def sumUtility (value : String → Amount → Float) (h : Holdings) : Float :=
  h.entries.foldl (fun x e => x + value e.1 e.2) 0

/-- The utility of quantities of goods. -/
def logUtility (w : Weights) (goods : Holdings) (shift : Amount) : Float :=
  sumUtility (fun k q => goodUtility (weight w k) q shift) goods

/-- The utility of amounts of currencies. -/
def linearUtility (w : Weights) (amounts : Holdings) : Float :=
  sumUtility (fun k a => weight w k * a.toFloat) amounts

/-! ### Preferences -/

/-- Weights and fees, each of which may not be set yet. -/
structure Preferences where
  exchange? : Option Weights
  utility? : Option Weights
  fees? : Option Fees
  /-- What is added to a quantity before its logarithm is taken. -/
  shift : Amount
deriving DecidableEq

namespace Preferences

/-- Nothing set, and the usual shift. -/
def unset : Preferences := ⟨none, none, none, 100⟩

instance : Inhabited Preferences := ⟨unset⟩

def isInitialized (p : Preferences) : Bool :=
  p.exchange?.isSome && p.utility?.isSome && p.fees?.isSome

/-- Sets the preferences, unless they are set already: then nothing changes, and the answer is
that nothing was done. -/
def init (p : Preferences) (exchange utility : Weights) (fee : Amount) :
    Except Fault (Preferences × Bool) := do
  if p.isInitialized then return (p, false)
  else
    let fees ← Fees.split fee
    return ({ p with exchange? := some exchange, utility? := some utility, fees? := some fees },
      true)

/-- The weights of the currencies. -/
def exchange (p : Preferences) : Except Fault Weights := part .exchange p.exchange?

/-- The weights of the goods. -/
def utility (p : Preferences) : Except Fault Weights := part .utility p.utility?

def fees (p : Preferences) : Except Fault Fees := part .fees p.fees?

/-- The utility of quantities of goods. -/
def goodsScore (p : Preferences) (goods : Holdings) : Except Fault Float := do
  return logUtility (← p.utility) goods p.shift

/-- The utility of amounts of currencies. -/
def currencyScore (p : Preferences) (amounts : Holdings) : Except Fault Float := do
  return linearUtility (← p.exchange) amounts

/-- The score of a bundle. -/
def score (p : Preferences) (goods amounts : Holdings) : Except Fault Float := do
  let g ← p.goodsScore goods
  let c ← p.currencyScore amounts
  return g + c

/-- How the score changes if the given amounts are added to the holdings. A side for which nothing
is given keeps its score. -/
def marginal (p : Preferences) (o : Ownership) (goodDeltas amountDeltas : Option Holdings) :
    Except Fault Float := do
  let goods ← o.goods
  let amounts ← o.amounts
  let g ← p.goodsScore goods
  let c ← p.currencyScore amounts
  let g' ← match goodDeltas with
    | some d => p.goodsScore (← goods.addAll d)
    | none => pure g
  let c' ← match amountDeltas with
    | some d => p.currencyScore (← amounts.addAll d)
    | none => pure c
  return g' + c' - g - c

/-- How the score changes by a transaction, fees included. -/
def scoreChange (p : Preferences) (o : Ownership) (t : Transaction) : Except Fault Float := do
  let before ← p.score (← o.goods) (← o.amounts)
  let next ← o.apply [t]
  let after ← p.score (← next.goods) (← next.amounts)
  return after - before

end Preferences

end Bazaar.Agent
