import Bazaar.Ledger.Transfer

/-!
The audit of a ledger: what was minted must be what is held and what was paid as fees.
-/

namespace Bazaar.Ledger

/-- The finding of an audit. -/
inductive Finding where
  | balanced
  /-- The books do not add up to what was minted. -/
  | anomaly (minted circulating burned : Amount)
deriving DecidableEq

def Finding.isBalanced : Finding → Bool
  | .balanced => true
  | .anomaly .. => false

/-- Compares what was minted with the sum of the balances and the sum of the fees. A sum that
leaves the range of amounts on the way is reported as the largest amount. -/
def audit (minted : Amount) (balances fees : List Amount) : Finding :=
  let circulating := Amount.sum? balances
  let burned := Amount.sum? fees
  let total := circulating.bind fun c => burned.bind fun b => Amount.add? c b
  if total = some minted then .balanced
  else .anomaly minted (circulating.getD Amount.greatest) (burned.getD Amount.greatest)

end Bazaar.Ledger
