import EchoProbe.Main
import EchoProbe.Relay
import EchoProbe.Proofs.Echo.Server
import EchoProbe.Proofs.Probe.LockStep
import EchoProbe.Proofs.Probe.Outcome
import EchoProbe.Proofs.Probe.Shape
import EchoProbe.Proofs.Probe.Strictness
import EchoProbe.Proofs.Relay
import EchoProbe.Proofs.Echo.Moves
import EchoProbe.Proofs.Echo.Tracking
import EchoProbe.Proofs.Echo.Isolation
import EchoProbe.Proofs.Echo.Draining
import EchoProbe.Proofs.Text.Utf8
import EchoProbe.Proofs.Probe.Completion
import EchoProbe.Proofs.Probe.Cancellation
import EchoProbe.Proofs.Session.Course
import EchoProbe.Proofs.Session.Lifecycle
import EchoProbe.Proofs.Session.Cancellation
import EchoProbe.Proofs.Settings.Comments
import EchoProbe.Proofs.Settings.EnvFile
import EchoProbe.Proofs.Settings.Precedence
import EchoProbe.Proofs.Settings.Placeholders
import EchoProbe.Proofs.Settings.Overrides
import EchoProbe.Proofs.Command.Agreement
import EchoProbe.Proofs.Probe.Quoting
import EchoProbe.Proofs.Echo.Refinement
import EchoProbe.Proofs.Session.Rendezvous
import EchoProbe.Proofs.Probe.Kinds
import EchoProbe.Proofs.Heartbeats
import EchoProbe.Proofs.Frame.Classification
import EchoProbe.Proofs.Report.Json
import EchoProbe.Proofs.Probe.Numerals
import EchoProbe.Proofs.Envelope.Members
import EchoProbe.Proofs.Report.Colours
