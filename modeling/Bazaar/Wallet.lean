import Bazaar.Transaction
import Bazaar.Json.Record

/-!
The wallet of an agent: its identity on each ledger.
-/

namespace Bazaar

/-- Who an agent is on a ledger. -/
structure Identity where
  ledger : LedgerId
  address : Address
deriving DecidableEq

/-- Identities, each under the id of a ledger. A wallet that was built holds each identity under
its own ledger; one that was read may not. -/
abbrev Wallet := SortedMap Identity

namespace Wallet

/-- Puts an identity under its ledger. -/
def add (w : Wallet) (i : Identity) : Wallet := w.insert i.ledger i

/-- The wallet of a list of identities, of which the last for a ledger counts. -/
def ofIdentities (is : List Identity) : Wallet := is.foldl add .empty

/-- The identity under a ledger. -/
def identity? (w : Wallet) (ledger : LedgerId) : Option Identity := w.get? ledger

/-- The addresses by ledger. -/
def addresses (w : Wallet) : SortedMap Address := w.map (·.address)

def toJson (w : Wallet) : Json :=
  .object [("crypto_objects",
    .ofMap (fun i => .object [("identifier", .text i.ledger), ("address", .text i.address)]) w)]

/-- Reads an identity. -/
def identityOfJson? (v : Json) : Option Identity := do
  let ms ← v.members? ["identifier", "address"]
  some ⟨← ms.required? "identifier" Json.text?, ← ms.required? "address" Json.text?⟩

def ofJson? (v : Json) : Option Wallet := do
  let ms ← v.members? ["crypto_objects"]
  ms.required? "crypto_objects" (Json.map? identityOfJson?)

end Wallet

end Bazaar
