import ToolRelay.Fleet.Calls
import ToolRelay.Link.Basic
import ToolRelay.Link.Stream.Shared
import ToolRelay.Proofs.Routine.Discipline
import ToolRelay.Proofs.Stream.State
import ToolRelay.Proofs.Stream.Reader
import ToolRelay.Proofs.Stream.History
import ToolRelay.Proofs.Stream.Waiting
import ToolRelay.Routine.Interleaving
import ToolRelay.Server.File
import ToolRelay.Telemetry.Setup
import ToolRelay.Proofs.Stream.Shared
import ToolRelay.Proofs.Stream.Completeness
import ToolRelay.Proofs.Link.Correlation
import ToolRelay.Client.Callers
import ToolRelay.Proofs.Routine.Throughout
import ToolRelay.Proofs.Client.Standing
import ToolRelay.Proofs.Client.Handshake
import ToolRelay.Proofs.Stream.Tally
import ToolRelay.Proofs.Stream.Attendance
import ToolRelay.Proofs.Fleet.Gathering
import ToolRelay.Proofs.Session.History
import ToolRelay.Proofs.Fleet.Isolation
import ToolRelay.Fleet.Callers
import ToolRelay.Proofs.Fleet.Conduct
import ToolRelay.Proofs.Fleet.Staying
import ToolRelay.Proofs.Stream.Budget
import ToolRelay.Proofs.Bus.Paths
import ToolRelay.Proofs.Fleet.Sessions
import ToolRelay.Proofs.Server.File
import ToolRelay.Proofs.Stream.Arrival
import ToolRelay.Proofs.Stream.Discovery
import ToolRelay.Proofs.Stream.EarlierReaders
import ToolRelay.Proofs.Stream.Undisturbed
import ToolRelay.Proofs.Rpc.Framing
import ToolRelay.Proofs.Server.Reference
import ToolRelay.Proofs.Bus.Mirror
import ToolRelay.Proofs.Bus.Arguments
import ToolRelay.Proofs.Bus.Answers
import ToolRelay.Proofs.Link.Past
import ToolRelay.Proofs.Fleet.Release
import ToolRelay.Proofs.Rpc.RoundTrip
import ToolRelay.Proofs.Client.Numbering
import ToolRelay.Proofs.Fleet.Listings
import ToolRelay.Proofs.Bus.Table
import ToolRelay.Proofs.Link.Slot
import ToolRelay.Proofs.Client.Naming
import ToolRelay.Proofs.Client.Spans
import ToolRelay.Proofs.Telemetry.Setup
