import Bazaar.Agent.Preferences
import Bazaar.Transaction.Json

/-!
An agent's holdings and preferences as JSON. A part that is not set is `null` and may be left out.
-/

namespace Bazaar.Agent

/-- Reads a part that may be `null` or left out of an object. -/
def part? {α : Type} (v : Json) (ms : Json.Members) (name : String) (read : Json → Option α) :
    Option (Option α) :=
  match v, ms.lookup name with
  | _, some w => w.nullable? read
  | .object _, none => some none
  | _, none => none

namespace Ownership

def toJson (o : Ownership) : Json :=
  let side : Option Holdings → Json
    | none => .null
    | some h => Holdings.toJson h
  .object [("amount_by_currency", side o.amounts?), ("quantities_by_good_id", side o.goods?)]

def ofJson? (v : Json) : Option Ownership := do
  let ms ← v.members? ["amount_by_currency", "quantities_by_good_id"]
  some ⟨← part? v ms "amount_by_currency" Holdings.ofJson?,
    ← part? v ms "quantities_by_good_id" Holdings.ofJson?⟩

end Ownership

def Fees.ofJson? (v : Json) : Option Fees := do
  let ms ← v.members? ["buyer_tx_fee", "seller_tx_fee"]
  some ⟨← ms.required? "buyer_tx_fee" Json.amount?, ← ms.required? "seller_tx_fee" Json.amount?⟩

def Preferences.ofJson? (v : Json) : Option Preferences := do
  let ms ← v.members? ["exchange_params_by_currency", "utility_params_by_good_id",
    "transaction_fees", "quantity_shift"]
  some ⟨← part? v ms "exchange_params_by_currency" Weights.ofJson?,
    ← part? v ms "utility_params_by_good_id" Weights.ofJson?,
    ← part? v ms "transaction_fees" Fees.ofJson?,
    ← ms.required? "quantity_shift" Json.amount?⟩

end Bazaar.Agent
