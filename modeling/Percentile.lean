import Percentile.Actor
import Percentile.Binary64
import Percentile.Binary64.Shortest
import Percentile.Check.Context
import Percentile.Check.Engine
import Percentile.Check.Outcome
import Percentile.Check.Pending
import Percentile.Check.Result
import Percentile.Configuration
import Percentile.Dice
import Percentile.Dice.ChaCha
import Percentile.Domain
import Percentile.Item
import Percentile.Json.Basic
import Percentile.Json.Document
import Percentile.Json.Draft
import Percentile.Json.Literal
import Percentile.Json.Printer
import Percentile.Json.Token
import Percentile.Modifier
import Percentile.Modifier.Exclusion
import Percentile.Modifier.Resolution
import Percentile.Predicate
import Percentile.Predicate.Statement
import Percentile.Reader.Basic
import Percentile.Reader.Record
import Percentile.Reader.Written
import Percentile.RollOptions
import Percentile.Rule
import Percentile.Rule.Choice
import Percentile.Rule.Element
import Percentile.Rule.Registry
import Percentile.Rule.Value
import Percentile.Score
import Percentile.Synthetics
import Percentile.Synthetics.Entry
import Percentile.Table
import Percentile.Text.Blank
import Percentile.Text.Hidden
import Percentile.Text.Numeral
import Percentile.Text.Quoted
import Percentile.Proofs.Exclusion
import Percentile.Proofs.Preparation
import Percentile.Proofs.Confirmation
import Percentile.Proofs.ExclusionOrder
import Percentile.Proofs.Reordering
import Percentile.Proofs.Drift
import Percentile.Proofs.Displacement
import Percentile.Proofs.Condition
import Percentile.Proofs.Outcome
import Percentile.Proofs.History
import Percentile.Proofs.CappedTotal
import Percentile.Proofs.Lineage
import Percentile.Proofs.Entries
import Percentile.Proofs.Reach
import Percentile.Proofs.Session
import Percentile.Proofs.Records
import Percentile.Proofs.Saving
import Percentile.Proofs.Amendments
import Percentile.Proofs.Provenance
import Percentile.Proofs.OutcomeGates
import Percentile.Proofs.Recovery
import Percentile.Proofs.Derivation
import Percentile.Proofs.Cap
import Percentile.Proofs.Parts
import Percentile.Proofs.Spelling
import Percentile.Proofs.Losers
import Percentile.Proofs.Polarity
import Percentile.Proofs.Ranking
import Percentile.Proofs.Rewording
import Percentile.Proofs.Sources
import Percentile.Proofs.Damage
import Percentile.Proofs.Toughness
import Percentile.Proofs.Numeral
import Percentile.Proofs.Attributes
import Percentile.Proofs.RuleValues
import Percentile.Proofs.Ancestry
import Percentile.Proofs.Overflow
import Percentile.Proofs.Ownership
import Percentile.Proofs.Script
