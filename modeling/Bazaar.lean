import Bazaar.Main
import Bazaar.Search.Directory
import Bazaar.Wire.Bytes
import Bazaar.Agent.Json
import Bazaar.Proofs.Amount
import Bazaar.Proofs.Float
import Bazaar.Proofs.Ledger.Posting
import Bazaar.Proofs.Agent.Settlement
import Bazaar.Proofs.Ledger.Supply
import Bazaar.Proofs.Agent.Acceptance
import Bazaar.Proofs.Wire.Content
import Bazaar.Proofs.Wire.Schema
import Bazaar.Proofs.Wire.Condition
import Bazaar.Proofs.Wire.Meaning
import Bazaar.Proofs.Wire.RoundTrip
import Bazaar.Proofs.Search.Conformance
import Bazaar.Proofs.Wire.Description
import Bazaar.Proofs.Wire.Nesting
import Bazaar.Proofs.Wire.Rewriting
import Bazaar.Proofs.Wire.Soundness
import Bazaar.Proofs.Wire.Pairings
import Bazaar.Proofs.Agent.Batching
import Bazaar.Proofs.Agent.Initialization
import Bazaar.Proofs.Agent.Holdings
import Bazaar.Proofs.Agent.Updates
import Bazaar.Proofs.Agent.Sequences
import Bazaar.Proofs.Agent.Coverage
import Bazaar.Proofs.Agent.Fees
import Bazaar.Proofs.Agent.Adjustments
import Bazaar.Proofs.Agent.Scores
import Bazaar.Proofs.Agent.Utility
import Bazaar.Proofs.Agent.Marginal
import Bazaar.Proofs.Agent.History
import Bazaar.Proofs.Agent.Roles
import Bazaar.Proofs.Agent.Verdicts
import Bazaar.Proofs.Agent.Identities
import Bazaar.Proofs.Ledger.Accounts
import Bazaar.Proofs.Ledger.Outcomes
import Bazaar.Proofs.Ledger.Audit
import Bazaar.Proofs.Search.Equality
import Bazaar.Proofs.Search.Registration
import Bazaar.Proofs.Search.Typing
import Bazaar.Proofs.Search.Semantics
import Bazaar.Proofs.Search.Expansion
import Bazaar.Proofs.Search.Comparison
import Bazaar.Proofs.Search.Widening
import Bazaar.Proofs.Search.Schema
import Bazaar.Proofs.Search.Description
import Bazaar.Proofs.Search.Withdrawal
import Bazaar.Proofs.Search.Substitution
import Bazaar.Proofs.Text
import Bazaar.Proofs.Json.Words
import Bazaar.Proofs.Json.Lines
import Bazaar.Proofs.Json.RoundTrip
import Bazaar.Proofs.Json.Record
import Bazaar.Proofs.Json.Members
import Bazaar.Proofs.Envelope
import Bazaar.Proofs.Dialect
import Bazaar.Proofs.Engine
