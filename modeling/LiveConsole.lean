import LiveConsole.Cadence
import LiveConsole.Console.Scripts
import LiveConsole.Net.Client
import LiveConsole.Net.Host
import LiveConsole.Net.Loopback
import LiveConsole.Proofs.Message.RoundTrip
import LiveConsole.Script.Spelling
import LiveConsole.Proofs.Net.Listening
import LiveConsole.Proofs.Net.Turns
import LiveConsole.Proofs.Net.Framing
import LiveConsole.Proofs.Console.Requests
import LiveConsole.Proofs.Net.Attending
import LiveConsole.Proofs.Net.Lifetime
import LiveConsole.Proofs.Net.Serving
import LiveConsole.Proofs.Net.ServedInOrder
import LiveConsole.Proofs.Console.Decoding
import LiveConsole.Proofs.Console.Containment
import LiveConsole.Proofs.Net.Additions
import LiveConsole.Proofs.Net.Truncation
import LiveConsole.Proofs.Net.Soundness
import LiveConsole.Proofs.Net.Ledger
import LiveConsole.Proofs.Net.Binding
import LiveConsole.Proofs.Net.Ownership
import LiveConsole.Proofs.Net.Accounting
import LiveConsole.Proofs.Net.Sheltered
import LiveConsole.Proofs.Net.Starting
import LiveConsole.Proofs.Net.Phases
import LiveConsole.Proofs.Net.Recovery
import LiveConsole.Proofs.Net.Teardown
import LiveConsole.Proofs.Net.Continuity
import LiveConsole.Proofs.Console.Acceptance
import LiveConsole.Proofs.Net.Correspondence
import LiveConsole.Proofs.Settings.Making
import LiveConsole.Proofs.Settings.Overriding
import LiveConsole.Proofs.Net.Halting
import LiveConsole.Proofs.Console.Tracing
import LiveConsole.Proofs.Cadence.Stopping
import LiveConsole.Proofs.Cadence.Pace
import LiveConsole.Proofs.Net.Reporting
