import Seedbed.Main
import Seedbed.Proofs.Bson.Equality
import Seedbed.Proofs.Store.Catalog
import Seedbed.Proofs.Store.Insertion
import Seedbed.Proofs.Store.Operations
import Seedbed.Proofs.Store.Images
import Seedbed.Proofs.Store.Existence
import Seedbed.Proofs.Store.Size
import Seedbed.Proofs.Store.Reachable
import Seedbed.Proofs.Action
import Seedbed.Proofs.Fixture.Records
import Seedbed.Proofs.Run.Comparison
import Seedbed.Proofs.Run.Verification
import Seedbed.Proofs.Run.Seeder
import Seedbed.Proofs.Run.Refusal
import Seedbed.Proofs.Run.Seed
import Seedbed.Proofs.Run.Operations
import Seedbed.Proofs.Run.Recovery
import Seedbed.Proofs.Text.Digits
import Seedbed.Proofs.Text.Numeral
import Seedbed.Proofs.Decimal128.Layout
import Seedbed.Proofs.Decimal128.RoundTrip
import Seedbed.Proofs.Decimal128.Exactness
import Seedbed.Proofs.Decimal128.Numeral
import Seedbed.Proofs.Fixture.Literal
import Seedbed.Proofs.Instant.Calendar
import Seedbed.Proofs.Instant.Rfc3339
import Seedbed.Proofs.Instant.RoundTrip
import Seedbed.Proofs.Fixture.Instant
import Seedbed.Proofs.Server.Calls
import Seedbed.Proofs.Run.Commands
import Seedbed.Proofs.Server.Deployment
import Seedbed.Proofs.Server.DryRun
import Seedbed.Proofs.Run.Simulation
import Seedbed.Proofs.Run.DryRun
import Seedbed.Proofs.Run.Confinement
import Seedbed.Proofs.Run.Conservation
import Seedbed.Proofs.Run.Acceptance
import Seedbed.Proofs.Store.Deletion
import Seedbed.Proofs.Store.Batches
import Seedbed.Proofs.Store.Uniqueness
import Seedbed.Proofs.Fixture.Association
import Seedbed.Proofs.Base64.Format
import Seedbed.Proofs.Base64.Reading
import Seedbed.Proofs.Fixture.Binary
import Seedbed.Proofs.Text.Blank
import Seedbed.Proofs.Bson.Equivalence
import Seedbed.Proofs.Duration
import Seedbed.Proofs.Bson.Coding
import Seedbed.Proofs.Server.Dealings
import Seedbed.Proofs.Server.Refusals
import Seedbed.Proofs.Run.Faults
