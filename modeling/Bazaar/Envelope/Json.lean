import Bazaar.Envelope
import Bazaar.Transaction.Json

/-!
Envelopes as JSON. A body is tagged by its kind and an update by its performative, wherever in the
object the tag stands; a body of an unknown kind is read as such, whatever it holds.
-/

namespace Bazaar

namespace StateUpdate

/-- The names of the members of an update that sets the holdings. -/
def endowNames : List String :=
  ["amount_by_currency", "quantities_by_good_id", "exchange_params_by_currency",
    "utility_params_by_good_id", "tx_fee"]

/-- The names of the members of an update that adds to the holdings. -/
def applyNames : List String := ["amount_by_currency", "quantities_by_good_id"]

/-- The members of an update, without its tag. -/
def toMembers : StateUpdate → Json.Members
  | .endow amounts goods exchange utility fee =>
    [("amount_by_currency", Holdings.toJson amounts),
      ("quantities_by_good_id", Holdings.toJson goods),
      ("exchange_params_by_currency", Weights.toJson exchange),
      ("utility_params_by_good_id", Weights.toJson utility), ("tx_fee", .int fee.toInt)]
  | .apply amounts goods =>
    [("amount_by_currency", Holdings.toJson amounts),
      ("quantities_by_good_id", Holdings.toJson goods)]

def Kind.ofName? : String → Option Kind
  | "initialize" => some .endow
  | "apply" => some .apply
  | _ => none

/-- Reads the tag of an update: the name of its kind, or the number of the kind from zero. -/
def Kind.ofTag? : Json → Option Kind
  | .text s => ofName? s
  | .int 0 => some .endow
  | .int 1 => some .apply
  | _ => none

def ofJson? (v : Json) : Option StateUpdate := do
  let (tag, rest) ← v.tagged? "performative"
  match ← Kind.ofTag? tag with
  | .endow =>
    let ms ← rest.members? endowNames
    some (.endow
      (← ms.required? "amount_by_currency" Holdings.ofJson?)
      (← ms.required? "quantities_by_good_id" Holdings.ofJson?)
      (← ms.required? "exchange_params_by_currency" Weights.ofJson?)
      (← ms.required? "utility_params_by_good_id" Weights.ofJson?)
      (← ms.required? "tx_fee" Json.amount?))
  | .apply =>
    let ms ← rest.members? applyNames
    some (.apply
      (← ms.required? "amount_by_currency" Holdings.ofJson?)
      (← ms.required? "quantities_by_good_id" Holdings.ofJson?))

end StateUpdate

namespace Body

def toJson : Body → Json
  | .transaction t => .object (("kind", .text "transaction") :: t.toMembers)
  | .stateUpdate u =>
    .object (("kind", .text "state_update") :: ("performative", .text u.kind.name) :: u.toMembers)
  | .unknown => .object [("kind", .text "unknown")]

/-- What is left of a body of an unknown kind without its tag is anything but the items of an
array. -/
def isUnread : Json → Bool
  | .array items => items.isEmpty
  | _ => true

/-- Reads a body, of which every part must have a value, also those that do not matter. -/
def ofJson? (v : Json) : Option Body := do
  let (tag, rest) ← if v.isValid then v.tagged? "kind" else none
  match ← tag.text? with
  | "transaction" => (Transaction.ofJson? Json.isVoid rest).map .transaction
  | "state_update" => (StateUpdate.ofJson? rest).map .stateUpdate
  | _ => if isUnread rest then some .unknown else none

end Body

namespace Envelope

def toJson (e : Envelope) : Json :=
  .object [("protocol_id", .text e.protocol), ("body", e.body.toJson)]

def ofJson? (v : Json) : Option Envelope := do
  let ms ← v.members? ["protocol_id", "body"]
  some ⟨← ms.required? "protocol_id" Json.text?, ← ms.required? "body" Body.ofJson?⟩

end Envelope

end Bazaar
