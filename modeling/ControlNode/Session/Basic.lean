import ControlNode.Session.Decoding

/-!
# Sessions

A `Session` sends commands to a control node and decodes what it measures. How a command reaches
the node and its answer comes back is left to a carrier. Commands change what is decoded only by
way of the acknowledgements on the measurement path; of a reset of the clock, the session notes
the time at which it was asked for.
-/

namespace ControlNode

/-- States `σ` of something that carries the packet of a command to a control node and brings back
its answer, if there is one. -/
class Carrier (σ : Type) where
  exchange : σ → Packet → Logged (Option Packet × σ)

/-- A session over a carrier, at a time of its clock in seconds. -/
structure Session (σ : Type) where
  decoding : Decoding := {}
  clock : Float
  carrier : σ

namespace Session

variable {σ : Type}

/-- Reports a command that was not accepted. -/
def reportError (name : String) (answer : Option Packet) : CommandError → Logged Unit
  | .timeout _ => Log.emit .error "command timed out" [("command", .text name)]
  | .refused _ =>
    Log.emit .error "command refused"
      [("command", .text name), ("answer", .text (Text.byteList (answer.getD [])))]
  | .unexpectedAnswer _ answer =>
    Log.emit .error "unexpected answer"
      [("command", .text name), ("answer", .text (Text.byteList answer))]
  | .invalidArgument _ => pure ()

/-- Judges the answer to a command and reports it if it is not an acceptance. -/
def conclude (command : Command) (answer : Option Packet) : Logged (Except CommandError Unit) :=
  match Command.judge command.tag answer with
  | .ok () => pure (.ok ())
  | .error e => do
    reportError command.name answer e
    return .error e

/-- Sends a command and brings back what there is to judge. A command that cannot be encoded
changes nothing. -/
def ask [Carrier σ] (s : Session σ) (command : Command) :
    Logged (Except CommandError (Option Packet) × Session σ) :=
  match command.encode with
  | .error e => pure (.error e, s)
  | .ok p => do
    Log.emit .debug "sending command"
      [("command", .text command.name), ("payload", .text (Text.byteList p))]
    let decoding := s.decoding.request command s.clock
    let (answer, carrier) ← Carrier.exchange s.carrier p
    return (.ok answer, { s with carrier, decoding })

/-- Judges what sending a command has brought back. -/
def settle (s : Session σ) (command : Command) :
    Except CommandError (Option Packet) → Logged (Except CommandError Unit × Session σ)
  | .error e => pure (.error e, s)
  | .ok answer => do
    let result ← conclude command answer
    return (result, { s with decoding := s.decoding.settle command result })

/-- Sends a command and judges its answer. -/
def perform [Carrier σ] (s : Session σ) (command : Command) :
    Logged (Except CommandError Unit × Session σ) := do
  let (answer, s) ← s.ask command
  s.settle command answer

def decode (s : Session σ) (p : Packet) : Logged (Option Record × Session σ) := do
  let (record, decoding) ← s.decoding.decode s.clock p
  return (record, { s with decoding })

end Session

end ControlNode
