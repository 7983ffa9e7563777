import Roster.Identity.Random
import Roster.Request
import Roster.Memory
import Roster.Database.Store
import Roster.Database.Session
import Roster.Database.Maintenance
import Roster.Proofs.Database.Atomicity
import Roster.Proofs.Outcome
import Roster.Proofs.Text.Tidy
import Roster.Proofs.Clusters.Decision
import Roster.Proofs.Clusters.Effect
import Roster.Proofs.Parity
import Roster.Proofs.Database.Listing
import Roster.Proofs.Clusters.Views
import Roster.Proofs.Database.Loss
import Roster.Proofs.Database.Enforcement
import Roster.Proofs.Text.Trimmed
import Roster.Proofs.Database.Values
import Roster.Proofs.Database.Achieved
import Roster.Proofs.Ledger
import Roster.Proofs.Memory.Legible
import Roster.Proofs.Clusters.ReadBack
import Roster.Proofs.Database.Reports
import Roster.Proofs.Database.LeftBehind
import Roster.Proofs.Memory.Alike
import Roster.Proofs.Memory.Scope
import Roster.Proofs.Clusters.Independence
import Roster.Proofs.Memory.Undo
import Roster.Proofs.Clusters.Undo
import Roster.Proofs.Requests.Problems
import Roster.Proofs.Requests.Padding
import Roster.Proofs.Json.Lexemes
import Roster.Proofs.Json.Layout
import Roster.Proofs.Json.Skipping
import Roster.Proofs.Json.Meaning
import Roster.Proofs.Json.Members
import Roster.Proofs.Json.Records
import Roster.Proofs.Json.Objects
import Roster.Proofs.Payload.Objects
import Roster.Proofs.Clusters.Parts
import Roster.Proofs.Database.Blindness
import Roster.Proofs.Database.Schema
import Roster.Proofs.Database.Upkeep
import Roster.Proofs.Database.Reopening
import Roster.Proofs.Database.Remains
import Roster.Proofs.Clusters.Metadata
import Roster.Proofs.Json.Recognition
import Roster.Proofs.Database.Selectors
import Roster.Proofs.Json.Rows
import Roster.Proofs.Payload.Rows
import Roster.Proofs.Identity
import Roster.Proofs.Settings
import Roster.Proofs.Memory.Enumeration
import Roster.Proofs.Calendar
import Roster.Proofs.Clusters.CreationTime
import Roster.Proofs.Pooling
