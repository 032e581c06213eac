import ControlNode.Main
import ControlNode.Proofs.Cli.Count
import ControlNode.Proofs.Cli.Deadline
import ControlNode.Proofs.Cli.DurationText
import ControlNode.Proofs.Cli.Errand
import ControlNode.Proofs.Cli.Watch
import ControlNode.Proofs.Collector.Delivery
import ControlNode.Proofs.Collector.History
import ControlNode.Proofs.Collector.Progress
import ControlNode.Proofs.Collector.Sequential
import ControlNode.Proofs.Connection.History
import ControlNode.Proofs.Connection.Lifecycle
import ControlNode.Proofs.Connection.Listener
import ControlNode.Proofs.Connection.Sequential
import ControlNode.Proofs.Connection.Threads
import ControlNode.Proofs.Frame.Accounting
import ControlNode.Proofs.Frame.Delivery
import ControlNode.Proofs.Frame.Duplex
import ControlNode.Proofs.Frame.Noise
import ControlNode.Proofs.Frame.Resync
import ControlNode.Proofs.Frame.Sending
import ControlNode.Proofs.Frame.Writer
import ControlNode.Proofs.Inbox.Conservation
import ControlNode.Proofs.Inbox.Queue
import ControlNode.Proofs.Inbox.Safety
import ControlNode.Proofs.Inbox.Separation
import ControlNode.Proofs.Inbox.Sequential
import ControlNode.Proofs.Measure.Acceptance
import ControlNode.Proofs.Measure.Radio
import ControlNode.Proofs.Session.Events
import ControlNode.Proofs.Session.Lag
import ControlNode.Proofs.Session.Pieces
import ControlNode.Proofs.Session.Rejection
import ControlNode.Proofs.Session.RoundTrip
import ControlNode.Proofs.Session.Sent
import ControlNode.Session.Replay
