import Formicary.Team
import Formicary.Compass
import Formicary.Random.Stream
import Formicary.Number.Quantity
import Formicary.Text.Quoted
import Formicary.Text.CodePoint
import Formicary.Text.Encoding
import Formicary.Digest
import Formicary.Random.Derive
import Formicary.Gene
import Formicary.Board.Build
import Formicary.Board.Census
import Formicary.Board.Audit
import Formicary.Tick.Commit
import Formicary.Board.Placement
import Formicary.Arena
import Formicary.Shape
import Formicary.Rules
import Formicary.Config
import Formicary.Json
import Formicary.Ant
import Formicary.Value
import Formicary.Number.Shortest
import Formicary.Number.Fixed
import Formicary.Number.Reading
import Formicary.Schema
import Formicary.Pack.Path
import Formicary.Pack.Files
import Formicary.Pack.Sections
import Formicary.Pack.Load
import Formicary.Pack.Standard
import Formicary.Yaml.Scalar
import Formicary.Yaml.Glyph
import Formicary.Yaml.Quoted
import Formicary.Yaml.Plain
import Formicary.Yaml.Token
import Formicary.Yaml.Document
import Formicary.Pack.Surroundings
import Formicary.Simulation.Window
import Formicary.Simulation.Clock
import Formicary.Simulation.Basic
import Formicary.Throughput
import Formicary.Main
import Formicary.Version
import Formicary.Number.Power
import Formicary.Proofs.Soundness
import Formicary.Proofs.Contents
import Formicary.Proofs.WellFormed
import Formicary.Proofs.Geometry
import Formicary.Proofs.Turn
import Formicary.Proofs.Queue
import Formicary.Proofs.Commit
import Formicary.Proofs.Stage
import Formicary.Proofs.Tick
import Formicary.Proofs.Setup
import Formicary.Proofs.Build
import Formicary.Proofs.Ids
import Formicary.Proofs.Consistency
import Formicary.Proofs.Reachable
import Formicary.Proofs.Outcome
import Formicary.Proofs.Ledger
import Formicary.Proofs.Schedule
import Formicary.Proofs.Journal
import Formicary.Proofs.Moves
import Formicary.Proofs.Counters
import Formicary.Proofs.Energy
import Formicary.Proofs.Damage
import Formicary.Proofs.Minds
import Formicary.Proofs.Hits
import Formicary.Proofs.Births
import Formicary.Proofs.Fates
import Formicary.Proofs.Succession
import Formicary.Proofs.Offspring
import Formicary.Proofs.Identity
import Formicary.Proofs.Founders
import Formicary.Proofs.Lineage
import Formicary.Proofs.Extinction
import Formicary.Proofs.Guise
import Formicary.Proofs.Teams
import Formicary.Proofs.SpareCell
import Formicary.Proofs.Host
import Formicary.Proofs.Acceptance
import Formicary.Proofs.Dice
import Formicary.Proofs.Packs
import Formicary.Proofs.Provenance
import Formicary.Proofs.Placing
import Formicary.Proofs.Locality
import Formicary.Proofs.Admission
import Formicary.Proofs.Snapshots
import Formicary.Proofs.Neighbors
import Formicary.Proofs.Population
import Formicary.Proofs.Views
import Formicary.Proofs.Tapes
import Formicary.Proofs.Honoured
import Formicary.Proofs.Documents
import Formicary.Proofs.Loading
import Formicary.Proofs.Seeds
import Formicary.Proofs.Stepping
import Formicary.Proofs.Windows
