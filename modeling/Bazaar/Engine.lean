import Bazaar.Agent.DecisionMaker
import Bazaar.Config
import Bazaar.Envelope.Json
import Bazaar.Json.Reader
import Bazaar.Json.Writer
import Bazaar.Text.Blank
import Bazaar.Text.Lines

/-!
The engine: an agent is set up from its configuration, takes in one envelope a line, runs one cycle
and writes one answer a line. Blank lines and lines that are no envelope are passed over.

How the text of a configuration is read is left to a reader that the engine is given, and so are the
digests that the ledger draws.
-/

namespace Bazaar.Engine

/-- The envelope that a line is. -/
def envelope? (line : String) : Option Envelope := (Json.parse? line).bind Envelope.ofJson?

/-- The envelopes of an input, in order. -/
def envelopes (input : String) : List Envelope :=
  ((Text.lines input).filter (!Text.isBlankText ·)).filterMap envelope?

/-- The line of an answer. -/
def line (t : Transaction) : String := t.toJson.render

/-- The agent of a configuration, with its endowment as the first envelope of its queue. -/
def agent (drawn : Nat → Digest) (c : Config) : Except Ledger.Refusal Agent.DecisionMaker := do
  let l ← (Ledger.new c.ledger drawn).mintAll c.balances.entries
  let d := Agent.DecisionMaker.new c.name c.wallet c.maxReactions l
  match c.endowment with
  | some e => return d.send (.ofBody (.stateUpdate e.toUpdate))
  | none => return d

/-- The answers of one cycle of an agent over an input. -/
def answers (d : Agent.DecisionMaker) (input : String) : List Transaction :=
  ((envelopes input).foldl Agent.DecisionMaker.send d).execute.2.2

/-- Why the engine stops. -/
inductive Failure where
  /-- The configuration cannot be read. -/
  | config
  /-- A balance of the configuration cannot be minted. -/
  | ledger (r : Ledger.Refusal)
  /-- The input is not there or is not text. -/
  | input

/-- The configuration that is read from a text, if there is one, with the overrides put in. -/
def configure (read : String → Option Config) (text : Option String) (o : Config.Overrides) :
    Except Failure Config :=
  match text with
  | none => .ok (Config.override {} o)
  | some text =>
    match read text with
    | some c => .ok (c.override o)
    | none => .error .config

/-- The answers that come of the text of a configuration file, if there is one, of the environment,
and of an input, if it can be read. -/
def run (read : String → Option Config) (drawn : Nat → Digest) (configText : Option String)
    (o : Config.Overrides) (input : Option ByteArray) : Except Failure (List Transaction) := do
  let c ← configure read configText o
  let d ← (agent drawn c).mapError .ledger
  match input.bind String.fromUTF8? with
  | some text => return answers d text
  | none => throw .input

/-- What is seen of a run of the engine. -/
structure Report where
  status : UInt32
  /-- What it writes to the standard output. -/
  output : String
deriving DecidableEq

/-- What is seen of a run, by what came of it: one answer a line, or nothing. -/
def report : Except Failure (List Transaction) → Report
  | .ok ts => ⟨0, Text.unlines (ts.map line)⟩
  | .error _ => ⟨1, ""⟩

end Bazaar.Engine
