import BaudSwitch.Main
import BaudSwitch.Port.Script
import BaudSwitch.Port.Terminal
import BaudSwitch.Proofs.Dialogue.Course
import BaudSwitch.Proofs.Dialogue.Work
import BaudSwitch.Proofs.Hex
import BaudSwitch.Proofs.Packet.Framing
import BaudSwitch.Proofs.Session.Courses
import BaudSwitch.Proofs.Handshake.Moves
import BaudSwitch.Proofs.Handshake.Books
import BaudSwitch.Proofs.Dialogue.FailStop
import BaudSwitch.Proofs.Port.Script
import BaudSwitch.Proofs.Handshake.FailStop
import BaudSwitch.Proofs.Handshake.Trace
import BaudSwitch.Proofs.Handshake.Reprogramming
import BaudSwitch.Proofs.Packet.Verdict
import BaudSwitch.Proofs.Handshake.Ownership
import BaudSwitch.Proofs.Handshake.Completion
import BaudSwitch.Proofs.Line.Window
import BaudSwitch.Proofs.CommandLine.Elements
import BaudSwitch.Proofs.CommandLine.Lenient
import BaudSwitch.Proofs.Handshake.Accounts
import BaudSwitch.Proofs.Handshake.SpeedChange
import BaudSwitch.Proofs.Handshake.Verifying
import BaudSwitch.Proofs.Packet.Stream
import BaudSwitch.Proofs.Session.Utterances
import BaudSwitch.Proofs.Command.Monitor
import BaudSwitch.Proofs.Toml.Document
import BaudSwitch.Proofs.Program.Effects
import BaudSwitch.Proofs.Line.Conservation
import BaudSwitch.Proofs.Session.Books
import BaudSwitch.Proofs.CommandLine.Options
import BaudSwitch.Proofs.Line.Delivery
import BaudSwitch.Proofs.Port.Terminal
import BaudSwitch.Proofs.Handshake.Turns
import BaudSwitch.Proofs.Handshake.Progress
import BaudSwitch.Proofs.Dialogue.Journal
import BaudSwitch.Proofs.Handshake.Journal
import BaudSwitch.Proofs.Text.Printable
import BaudSwitch.Proofs.Handshake.Crossings
import BaudSwitch.Proofs.Handshake.Verdict
import BaudSwitch.Proofs.Program.Verdict
import BaudSwitch.Proofs.Divider.Exact
import BaudSwitch.Proofs.Packet.Grammar
import BaudSwitch.Proofs.Packet.Cut
import BaudSwitch.Proofs.Packet.Corruption
import BaudSwitch.Proofs.CommandLine.Retries
import BaudSwitch.Proofs.Command.Console
import BaudSwitch.Proofs.Line.Deadline
import BaudSwitch.Proofs.Settings.Defaults
