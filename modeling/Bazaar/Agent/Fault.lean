import Bazaar.Transaction

/-!
What can go wrong when an agent computes with its holdings and preferences: a part of them is not
set yet, or a figure leaves the range of amounts.
-/

namespace Bazaar.Agent

/-- The parts of an agent's state that have to be set before use. -/
inductive Part where
  | amounts
  | goods
  | exchange
  | utility
  | fees
deriving DecidableEq

/-- The name of a part in messages. -/
def Part.name : Part → String
  | .amounts => "currency holdings"
  | .goods => "good holdings"
  | .exchange => "exchange params"
  | .utility => "utility params"
  | .fees => "transaction fees"

/-- The figures that can leave the range of amounts. -/
inductive Figure where
  /-- What a buyer pays in all. -/
  | buyerPayable
  /-- What a seller holds after the sale and before the fee. -/
  | sellerProceeds
  /-- The change of a buyer's currency. -/
  | buyerDelta
  /-- The change of a seller's currency. -/
  | sellerDelta
  /-- The change of a seller's good. -/
  | goodDelta (good : GoodId)
  /-- A holding after a change. -/
  | holding (key : String)
  | feeShare
  | feeTotal
  | sellerCorrection
deriving DecidableEq

/-- The name of a figure in messages. -/
def Figure.name : Figure → String
  | .buyerPayable => "buyer payable"
  | .sellerProceeds => "seller proceeds"
  | .buyerDelta => "buyer currency delta"
  | .sellerDelta => "seller currency delta"
  | .goodDelta good => "good delta " ++ good
  | .holding key => "holding " ++ key
  | .feeShare => "fee share"
  | .feeTotal => "fee split total"
  | .sellerCorrection => "seller fee correction"

/-- Why a computation of an agent stops. -/
inductive Fault where
  | notInitialized (part : Part)
  | overflow (figure : Figure)
deriving DecidableEq

def Fault.message : Fault → String
  | .notInitialized part => part.name ++ " not initialized"
  | .overflow figure => "arithmetic overflow: " ++ figure.name

/-- A figure, or the fault of its leaving the range. -/
def figure (f : Figure) : Option Amount → Except Fault Amount
  | some a => .ok a
  | none => .error (.overflow f)

/-- A part, or the fault of its not being set. -/
def part {α : Type} (p : Part) : Option α → Except Fault α
  | some a => .ok a
  | none => .error (.notInitialized p)

end Bazaar.Agent
