import DebugControl.Main
import DebugControl.Proofs.Pump.Ending
import DebugControl.Proofs.Session.Outcome
import DebugControl.Proofs.Sink.Chunks
import DebugControl.Proofs.Sink.Separator
import DebugControl.Proofs.Session.Conservation
import DebugControl.Proofs.Session.Calls
import DebugControl.Proofs.Session.Failing
import DebugControl.Proofs.Session.Exit
import DebugControl.Proofs.Session.Repeats
import DebugControl.Proofs.Toml.Escape
import DebugControl.Proofs.Toml.Long
import DebugControl.Proofs.Toml.Quoted
import DebugControl.Proofs.Toml.Number
import DebugControl.Proofs.Toml.Value
import DebugControl.Proofs.Toml.Statement
import DebugControl.Proofs.Toml.Table
import DebugControl.Proofs.Settings.Stored
import DebugControl.Proofs.Script.Label
import DebugControl.Proofs.Script.Expectation
import DebugControl.Proofs.Script.Transcript
import DebugControl.Proofs.Session.Tolerance
import DebugControl.Proofs.Session.Pairing
import DebugControl.Proofs.Utf8.Balance
import DebugControl.Proofs.Utf8.Mixing
import DebugControl.Proofs.Pump.Printing
import DebugControl.Proofs.Script.Sending
import DebugControl.Proofs.Session.Rounds
import DebugControl.Proofs.Source.Growth
import DebugControl.Proofs.Prompt.Thread
import DebugControl.Proofs.Prompt.Whole
import DebugControl.Proofs.Prompt.Tail
import DebugControl.Proofs.Pump.Copying
import DebugControl.Proofs.Settings.Timing
import DebugControl.Proofs.Script.Layout
import DebugControl.Proofs.Session.Attempts
import DebugControl.Proofs.Sink.Stability
import DebugControl.Proofs.Debuggee
import DebugControl.Proofs.Utf8.Rounds
import DebugControl.Proofs.Toml.Document
import DebugControl.Proofs.Settings.Partial
