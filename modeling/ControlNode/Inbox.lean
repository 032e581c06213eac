import ControlNode.Duration
import ControlNode.Frame.Wire
import ControlNode.Log
import ControlNode.Text.ByteList

/-!
# Arriving packets and the answers to commands

An `Inbox` sorts arriving packets: measurements wait in a queue, the newest answer waits in a
mailbox, error reports and empty packets are only counted. `sendAndWait` pairs a command with its
answer: it empties the mailbox, writes the frame of the command, and takes what the mailbox holds
once everything that arrives until the timeout has been routed.
-/

namespace ControlNode

/-- Counts of what was routed and what became of it. -/
structure Inbox.Tally where
  measurements : Nat := 0
  answers : Nat := 0
  staleOverwritten : Nat := 0
  staleDrained : Nat := 0
  errorReports : Nat := 0
  emptyDropped : Nat := 0
deriving DecidableEq, Repr

/-- The packets that have arrived and were not taken yet. -/
structure Inbox where
  mailbox : Option Packet := none
  queue : List Packet := []
  tally : Inbox.Tally := {}
deriving DecidableEq, Repr

namespace Inbox

/-- The byte read as a signed number in two's complement. -/
def errorCode (b : UInt8) : Int := b.toInt8.toInt

/-- What the code of an error report stands for. -/
def errorReason (code : Int) : String :=
  if code = -1 then "network queue overflow"
  else if code = -2 then "application queue overflow"
  else if code = -3 then "firmware invariant violated"
  else "unknown"

/-- The event that passes an error report on. -/
def errorReport (p : Packet) : Log.Event :=
  match p with
  | _ :: b :: _ =>
    ⟨.error, "control node reported an error",
      [("code", .number (errorCode b)), ("reason", .text (errorReason (errorCode b)))]⟩
  | _ => ⟨.error, "control node reported an error without a code", []⟩

/-- Puts an answer into the mailbox; an answer that still lies there is replaced. -/
def deliver (x : Inbox) (answer : Packet) : Logged Inbox :=
  match x.mailbox with
  | none => pure { x with mailbox := some answer }
  | some stale => do
    Log.emit .warn "answer mailbox already full, replacing unclaimed answer"
      [("stale", .text (Text.byteList stale)), ("newer", .text (Text.byteList answer))]
    return { x with
      mailbox := some answer
      tally := { x.tally with staleOverwritten := x.tally.staleOverwritten + 1 } }

/-- Sorts one arriving packet. -/
def route (x : Inbox) (p : Packet) : Logged Inbox :=
  match p.kind? with
  | none => do
    Log.emit .trace "dropping empty packet" []
    return { x with tally := { x.tally with emptyDropped := x.tally.emptyDropped + 1 } }
  | some kind => do
    Log.emit .trace "routing packet" [("kind", .text kind.name), ("len", .number p.length)]
    match kind with
    | .measurement =>
      return { x with
        queue := x.queue ++ [p]
        tally := { x.tally with measurements := x.tally.measurements + 1 } }
    | .errorReport =>
      ⟨{ x with tally := { x.tally with errorReports := x.tally.errorReports + 1 } },
        [errorReport p]⟩
    | .answer =>
      deliver { x with tally := { x.tally with answers := x.tally.answers + 1 } } p

def routeAll (x : Inbox) : List Packet → Logged Inbox
  | [] => pure x
  | p :: later => do routeAll (← x.route p) later

/-- Drops an answer that nobody waits for. -/
def discardStale (x : Inbox) : Logged Inbox :=
  match x.mailbox with
  | none => pure x
  | some stale => do
    Log.emit .debug "dropping stale answer before sending"
      [("answer", .text (Text.byteList stale))]
    return { x with
      mailbox := none
      tally := { x.tally with staleDrained := x.tally.staleDrained + 1 } }

/-- Takes the answer out of the mailbox, or notes that the timeout has passed without one. -/
def claim (x : Inbox) (command : Packet) (timeout : Duration) : Logged (Option Packet × Inbox) :=
  match x.mailbox with
  | some answer => do
    Log.emit .trace "answer received" [("answer", .text (Text.byteList answer))]
    return (some answer, { x with mailbox := none })
  | none => do
    Log.emit .error "no answer from control node"
      [("command", .text (Text.byteList command)), ("timeout", .text timeout.text)]
    return (none, x)

/-- What a write does to a line of states `σ` and to the inbox, while it runs and until the
timeout of the command has passed. -/
abbrev Write (σ : Type) : Type :=
  σ → List UInt8 → Inbox → Logged (Except Frame.Error Unit × σ × Inbox)

/-- Sends a command and waits for its answer. There is none when the command cannot be framed or
written, or when no answer arrives in time. -/
def sendAndWait {σ : Type} (write : Write σ) (timeout : Duration) (line : σ) (x : Inbox)
    (command : Packet) : Logged (Option Packet × σ × Inbox) := do
  let x ← x.discardStale
  match Frame.encode command with
  | .error e =>
    Log.emit .error "cannot frame command"
      [("command", .text (Text.byteList command)), ("error", .text e.message)]
    return (none, line, x)
  | .ok wire =>
    let (written, line, x) ← write line wire x
    match written with
    | .error e =>
      Log.emit .error "failed to write command"
        [("command", .text (Text.byteList command)), ("error", .text e.message)]
      return (none, line, x)
    | .ok () =>
      Log.emit .trace "command sent" [("command", .text (Text.byteList command))]
      let (answer, x) ← x.claim command timeout
      return (answer, line, x)

/-- Takes the oldest measurement out of the queue. -/
def receive (x : Inbox) : Option Packet × Inbox :=
  match x.queue with
  | [] => (none, x)
  | p :: queue => (some p, { x with queue })

end Inbox

end ControlNode
