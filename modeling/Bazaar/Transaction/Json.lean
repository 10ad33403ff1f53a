import Bazaar.Transaction
import Bazaar.Json.Record

/-!
Transactions as JSON: how they are written, and how they are read back.
-/

namespace Bazaar

namespace Holdings

def toJson (h : Holdings) : Json := .ofMap (fun a => .int a.toInt) h

def ofJson? : Json → Option Holdings := Json.map? Json.amount?

end Holdings

namespace Weights

def toJson (w : Weights) : Json := .ofMap .double w

def ofJson? : Json → Option Weights := Json.map? Json.double?

end Weights

namespace Performative

def ofName? : String → Option Performative
  | "propose" => some .propose
  | "accept" => some .accept
  | "reject" => some .reject
  | _ => none

/-- Reads a performative. In the place of its name may stand an object with that name and a value
that `isEmpty`. -/
def ofJson? (isEmpty : Json → Bool) (v : Json) : Option Performative :=
  (v.variant? isEmpty).bind ofName?

end Performative

namespace Transaction

/-- The names of the members of a transaction, in order. -/
def memberNames : List String :=
  ["performative", "transaction_id", "sender", "counterparty", "is_sender_buyer", "currency_id",
    "amount", "sender_tx_fee", "counterparty_tx_fee", "quantities_by_good_id", "ledger_id", "info",
    "transaction_digest"]

/-- A digest, or `null`. -/
def digestToJson : Option Digest → Json
  | none => .null
  | some d => .text d

/-- The members of a transaction. -/
def toMembers (t : Transaction) : Json.Members :=
  [("performative", .text t.performative.name), ("transaction_id", .text t.id),
    ("sender", .text t.sender), ("counterparty", .text t.counterparty),
    ("is_sender_buyer", .bool t.senderBuys), ("currency_id", .text t.currency),
    ("amount", .int t.amount.toInt), ("sender_tx_fee", .int t.senderFee.toInt),
    ("counterparty_tx_fee", .int t.counterpartyFee.toInt),
    ("quantities_by_good_id", Holdings.toJson t.quantities), ("ledger_id", .text t.ledger),
    ("info", t.info.toJson), ("transaction_digest", digestToJson t.digest)]

def toJson (t : Transaction) : Json := .object t.toMembers

/-- Reads a transaction. Goods, information and digest may be left out. -/
def ofJson? (isEmpty : Json → Bool) (v : Json) : Option Transaction := do
  let ms ← v.members? memberNames
  some
    { performative := ← ms.required? "performative" (Performative.ofJson? isEmpty)
      id := ← ms.required? "transaction_id" Json.text?
      sender := ← ms.required? "sender" Json.text?
      counterparty := ← ms.required? "counterparty" Json.text?
      senderBuys := ← ms.required? "is_sender_buyer" Json.bool?
      currency := ← ms.required? "currency_id" Json.text?
      amount := ← ms.required? "amount" Json.amount?
      senderFee := ← ms.required? "sender_tx_fee" Json.amount?
      counterpartyFee := ← ms.required? "counterparty_tx_fee" Json.amount?
      quantities := ← ms.default? "quantities_by_good_id" Holdings.ofJson? .empty
      ledger := ← ms.required? "ledger_id" Json.text?
      info := ← ms.default? "info" Info.ofJson? .empty
      digest := ← ms.default? "transaction_digest" (Json.nullable? Json.text?) none }

end Transaction

end Bazaar
