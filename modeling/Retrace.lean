import Retrace.Main
import Retrace.Proofs.Channel.Arrival
import Retrace.Proofs.Channel.Chunks
import Retrace.Proofs.Run.FullTrace
import Retrace.Proofs.Run.Values
import Retrace.Proofs.Session.Activity
import Retrace.Proofs.Session.Handshake
import Retrace.Proofs.Session.Ordering
import Retrace.Proofs.Session.Recording
import Retrace.Proofs.Number.Numeral
import Retrace.Proofs.Value.Reading
import Retrace.Proofs.Run.Isolation
import Retrace.Proofs.Run.Teardown
import Retrace.Proofs.Value.RoundTrip
import Retrace.Proofs.Session.Dumping
import Retrace.Proofs.Channel.Cuts
import Retrace.Proofs.Debugger.Event
import Retrace.Proofs.Debugger.Completed
import Retrace.Proofs.Value.Blocks
import Retrace.Proofs.Channel.Uses
import Retrace.Proofs.Debugger.Joined
import Retrace.Proofs.Run.Observation
import Retrace.Proofs.Run.Repeats
import Retrace.Proofs.Run.Launches
import Retrace.Proofs.CommandLine
import Retrace.Proofs.Timeout
import Retrace.Proofs.Session.Respawn
import Retrace.Proofs.Value.Splitting
import Retrace.Proofs.Viewer.Lexemes
import Retrace.Proofs.Viewer.SourcePane
