import PropertyGate.Definitions.Lemmas
import PropertyGate.Lifecycle.Balance
import PropertyGate.Main
import PropertyGate.Policy.Lemmas
import PropertyGate.Policy.Rule
import PropertyGate.Property.Lemmas
import PropertyGate.Store.Lemmas
import PropertyGate.Proofs.Api.Answering
import PropertyGate.Proofs.Api.Kind
import PropertyGate.Proofs.Concurrency.Alone
import PropertyGate.Proofs.Concurrency.Declaring
import PropertyGate.Proofs.Concurrency.Traffic
import PropertyGate.Proofs.Concurrency.Visit
import PropertyGate.Proofs.Definitions.Lasting
import PropertyGate.Proofs.Definitions.Seeding
import PropertyGate.Proofs.Flagging.Abridging
import PropertyGate.Proofs.Flagging.Reviewing
import PropertyGate.Proofs.Http.Spelling
import PropertyGate.Proofs.Json.Abridging
import PropertyGate.Proofs.Json.Leaves
import PropertyGate.Proofs.Json.Listing
import PropertyGate.Proofs.Json.Numerals
import PropertyGate.Proofs.Json.Outline
import PropertyGate.Proofs.Json.Passing
import PropertyGate.Proofs.Json.RoundTrip
import PropertyGate.Proofs.Json.Skipping
import PropertyGate.Proofs.Json.Understanding
import PropertyGate.Proofs.Launch.Encryption
import PropertyGate.Proofs.Launch.Hiding
import PropertyGate.Proofs.Lifecycle.Closing
import PropertyGate.Proofs.Lifecycle.Waking
import PropertyGate.Proofs.Patch.Declared
import PropertyGate.Proofs.Patch.Dispatch
import PropertyGate.Proofs.Patch.Grouping
import PropertyGate.Proofs.Patch.Independence
import PropertyGate.Proofs.Patch.Joining
import PropertyGate.Proofs.Patch.Partition
import PropertyGate.Proofs.Patch.Resolution
import PropertyGate.Proofs.Patch.Together
import PropertyGate.Proofs.Patch.Unchanged
import PropertyGate.Proofs.Property.Documents
import PropertyGate.Proofs.Property.Filing
import PropertyGate.Proofs.Property.Flatten
import PropertyGate.Proofs.Property.Keys
import PropertyGate.Proofs.Server.AllOrNothing
import PropertyGate.Proofs.Server.Authorization
import PropertyGate.Proofs.Server.Draining
import PropertyGate.Proofs.Server.Forward
import PropertyGate.Proofs.Server.InFlight
import PropertyGate.Proofs.Server.Readiness
import PropertyGate.Proofs.Server.ReadingBack
import PropertyGate.Proofs.Server.Resending
import PropertyGate.Proofs.Server.Serving
import PropertyGate.Proofs.Service.Alike
import PropertyGate.Proofs.Service.BodyLimit
import PropertyGate.Proofs.Service.Deadline
import PropertyGate.Proofs.Service.Identity
import PropertyGate.Proofs.Service.Origins
import PropertyGate.Proofs.Service.Precedence
import PropertyGate.Proofs.Service.RequestId
import PropertyGate.Proofs.Service.TeamStatus
import PropertyGate.Proofs.Service.Wiring
import PropertyGate.Proofs.Store.Committing
import PropertyGate.Proofs.Store.History
import PropertyGate.Proofs.Store.Replay
