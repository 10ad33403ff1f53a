import Bazaar.Envelope
import Bazaar.Wallet
import Bazaar.Yaml.Record
import Bazaar.Text.Blank

/-!
The configuration of an agent: its name, its wallet, the ledger it starts with, and what it is
endowed with. Every part has a default.
-/

namespace Bazaar

/-- What an agent starts with. -/
structure Endowment where
  amounts : Holdings := .empty
  goods : Holdings := .empty
  exchange : Weights := .empty
  utility : Weights := .empty
  fee : Amount := 0

/-- The update that sets an endowment. -/
def Endowment.toUpdate (e : Endowment) : StateUpdate :=
  .endow e.amounts e.goods e.exchange e.utility e.fee

/-- How events are logged. -/
inductive LogFormat where
  | pretty
  | json
deriving DecidableEq

def LogFormat.name : LogFormat → String
  | .pretty => "pretty"
  | .json => "json"

def LogFormat.ofName? : String → Option LogFormat
  | "pretty" => some .pretty
  | "json" => some .json
  | _ => none

/-- How an agent is set up. -/
structure Config where
  name : String := "agora-agent"
  /-- The most envelopes that are handled in a cycle; zero for no limit. -/
  maxReactions : Nat := 0
  /-- The addresses of the agent by ledger. -/
  addresses : SortedMap Address := .empty
  ledger : LedgerId := "fetchai"
  /-- What is minted to each address at the start. -/
  balances : Holdings := .empty
  endowment : Option Endowment := none
  logLevel : String := "info"
  logFormat : LogFormat := .pretty

namespace Config

/-- The variables of the environment that override a configuration. -/
structure Overrides where
  logLevel : Option String
  name : Option String

/-- The configuration with the overrides put in. -/
def override (c : Config) (o : Overrides) : Config :=
  { c with logLevel := o.logLevel.getD c.logLevel, name := o.name.getD c.name }

/-- The wallet of the agent. -/
def wallet (c : Config) : Wallet :=
  .ofIdentities (c.addresses.entries.map fun e => ⟨e.1, e.2⟩)

/-! ### Reading -/

/-- Reads an endowment. -/
def endowmentOfYaml? (v : Yaml) : Option Endowment := do
  let ms ← v.record? ["amount_by_currency", "quantities_by_good_id", "exchange_params_by_currency",
    "utility_params_by_good_id", "tx_fee"]
  some
    { amounts := ← Yaml.default? ms "amount_by_currency" (Yaml.map? Yaml.amount?) .empty
      goods := ← Yaml.default? ms "quantities_by_good_id" (Yaml.map? Yaml.amount?) .empty
      exchange := ← Yaml.default? ms "exchange_params_by_currency" (Yaml.map? Yaml.double?) .empty
      utility := ← Yaml.default? ms "utility_params_by_good_id" (Yaml.map? Yaml.double?) .empty
      fee := ← Yaml.default? ms "tx_fee" Yaml.amount? 0 }

/-- Puts the section on the agent into a configuration. -/
def readAgent? (c : Config) (v : Yaml) : Option Config := do
  let ms ← v.record? ["name", "max_reactions"]
  some { c with
    name := ← Yaml.default? ms "name" Yaml.text? c.name
    maxReactions := ← Yaml.default? ms "max_reactions" Yaml.natural? c.maxReactions }

/-- Puts the section on the wallet into a configuration. -/
def readWallet? (c : Config) (v : Yaml) : Option Config := do
  let ms ← v.record? ["addresses"]
  some { c with addresses := ← Yaml.default? ms "addresses" (Yaml.map? Yaml.text?) c.addresses }

/-- Puts the section on the ledger into a configuration. -/
def readLedger? (c : Config) (v : Yaml) : Option Config := do
  let ms ← v.record? ["id", "balances"]
  some { c with
    ledger := ← Yaml.default? ms "id" Yaml.text? c.ledger
    balances := ← Yaml.default? ms "balances" (Yaml.map? Yaml.amount?) c.balances }

/-- Puts the section on the log into a configuration. -/
def readLogging? (c : Config) (v : Yaml) : Option Config := do
  let ms ← v.record? ["level", "format"]
  some { c with
    logLevel := ← Yaml.default? ms "level" Yaml.text? c.logLevel
    logFormat := ← Yaml.default? ms "format" (fun v => v.text?.bind LogFormat.ofName?)
      c.logFormat }

/-- Reads a configuration. -/
def ofYaml? (v : Yaml) : Option Config := do
  let ms ← v.record? ["agent", "wallet", "ledger", "endowment", "logging"]
  let c : Config := {}
  let c ← Yaml.default? ms "agent" c.readAgent? c
  let c ← Yaml.default? ms "wallet" c.readWallet? c
  let c ← Yaml.default? ms "ledger" c.readLedger? c
  let c ← Yaml.default? ms "logging" c.readLogging? c
  let endowment ← Yaml.default? ms "endowment"
    (fun v => if v.isNull then some none else (endowmentOfYaml? v).map some) none
  some { c with endowment }

/-- Reads a configuration from the text of a file, in the part of YAML that `Yaml.parse?` reads. The
engine takes any other reader of configurations in its place. -/
def ofText? (text : String) : Option Config := (Yaml.parse? text).bind ofYaml?

/-- Reads a configuration from a text, which may be blank. -/
def parse? (text : String) : Option Config :=
  if Text.isBlankText text then some {} else ofText? text

end Config

end Bazaar
