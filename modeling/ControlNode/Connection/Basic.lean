import ControlNode.Connection.Listener
import ControlNode.Connection.Node
import ControlNode.Line.Loopback
import ControlNode.Session.Basic

/-!
# Connections

A `Connection` joins a host to a control node. The host listens to the line and routes what
arrives; commands are written to the line and wait for their answer. A connection is up until the
host stops it or the node hangs up, and never again afterwards: then nothing is sent or received
any more, and what has been routed stays where it is.
-/

namespace ControlNode

inductive ConnectionError where
  | serial (e : Line.SerialError)
  | frame (e : Frame.Error)
  | spawn (f : Line.Fault)
deriving DecidableEq, Repr

/-- What is told about a connection that failed. -/
def ConnectionError.message : ConnectionError → String
  | .serial e => "transport error: " ++ e.message
  | .frame e => "frame error: " ++ e.message
  | .spawn f => "failed to spawn reader thread: " ++ f.text

/-- A host and a control node on a line. -/
structure Connection where
  name : String := Line.Loopback.name
  timeout : Duration
  listener : Listener := { intake := { source := { arrivals := [], ending := .quiet } } }
  inbox : Inbox := {}
  node : Node

namespace Connection

/-- Connects to a node. The reads of the line wait so many milliseconds for data. -/
def start (node : Node) (timeout : Duration) (poll : Nat) : Except ConnectionError Connection :=
  match Line.checkTimeout poll with
  | .ok () => .ok { timeout, node }
  | .error f => .error (.frame (.fault f))

def isRunning (c : Connection) : Bool := c.listener.running

/-- The data of pieces as they arrive on a line; an empty piece is no arrival. -/
def arrivals (pieces : List (List UInt8)) : List Line.Arrival :=
  (pieces.filter (· ≠ [])).map .data

/-- Bytes arrive from the node. -/
def receive (c : Connection) (pieces : List (List UInt8)) : Connection :=
  if c.isRunning then
    let (listener, inbox) := (c.listener.arrive (arrivals pieces)).catchUp c.inbox
    { c with listener, inbox }
  else c

/-- The node hangs up, which ends the line. -/
def hangUp (c : Connection) : Connection :=
  if c.isRunning then
    let (listener, inbox) := (c.listener.arrive [.data []]).catchUp c.inbox
    { c with listener, inbox }
  else c

/-- The host stops the connection. -/
def stop (c : Connection) : Connection := { c with listener := c.listener.stop }

/-- Writes a frame; the node hears it, and its reply arrives. -/
def write : Inbox.Write (Listener × Node) := fun (listener, node) wire x =>
  let (pieces, node) := node.hear wire
  let (listener, x) := (listener.arrive (arrivals pieces)).catchUp x
  pure (.ok (), (listener, node), x)

/-- Sends the packet of a command and waits for its answer. Over a connection that is not up
nothing is sent. -/
def exchange (c : Connection) (p : Packet) : Logged (Option Packet × Connection) :=
  if c.isRunning then do
    let (answer, (listener, node), inbox) ←
      c.inbox.sendAndWait write c.timeout (c.listener, c.node) p
    return (answer, { c with listener, node, inbox })
  else do
    Log.emit .warn "link is not running, command not sent"
      [("command", .text (Text.byteList p))]
    return (none, c)

instance : Carrier Connection where
  exchange := exchange

def takeMeasurement (c : Connection) : Option Packet × Connection :=
  let (p, inbox) := c.inbox.receive
  (p, { c with inbox })

def describe (c : Connection) : String :=
  "ControlNodeLink \x7b device: \"" ++ c.name ++ "\", running: " ++ toString c.isRunning ++
    ", command_timeout: " ++ c.timeout.text ++ " \x7d"

end Connection

end ControlNode
