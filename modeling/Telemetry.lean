import Telemetry.FunctionTransport
import Telemetry.Proofs.Acceptance
import Telemetry.Proofs.Accounting
import Telemetry.Proofs.Audit
import Telemetry.Proofs.Buckets
import Telemetry.Proofs.Counting
import Telemetry.Proofs.Flattening
import Telemetry.Proofs.FloatOrder
import Telemetry.Proofs.Interchange
import Telemetry.Proofs.Isolation
import Telemetry.Proofs.Lineage
import Telemetry.Proofs.Lowering
import Telemetry.Proofs.Measurement
import Telemetry.Proofs.Pairing
import Telemetry.Proofs.Partition
import Telemetry.Proofs.Rearrangement
import Telemetry.Proofs.Recording
import Telemetry.Proofs.Spelling
import Telemetry.Proofs.Sufficiency
import Telemetry.Proofs.Timing
import Telemetry.Proofs.Transparency
import Telemetry.Proofs.Usage
import Telemetry.Proofs.Validation
import Telemetry.Session.Step
import Telemetry.Shelf.Hooks
import Telemetry.Shelf.Traces
