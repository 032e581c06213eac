import ControlNode.Cli.Run
import ControlNode.Session.Description
import Std.Time.DateTime.Timestamp

/-!
# The program

Reads the command line, plans, and carries the plan out with a device file: a task listens to the
file and hands over what arrives, while the main thread writes commands and waits for their answers.
What is sent, what an answer means, which records are reported and when a watch ends is decided by
the library; to its sessions, what arrives from the file is the reply of the node. The terminal
settings of the device file stay as they are, so the baud rate is only told. An interrupt ends the
program at once, and after a command without an answer the program ends only with the next byte or
the end of the file.
-/

namespace ControlNode.Main

open Cli

/-! ### Log events -/

/-- The rank of a severity; the most severe is the lowest. -/
def rank : Log.Level → Nat
  | .error => 0
  | .warn => 1
  | .info => 2
  | .debug => 3
  | .trace => 4

def levelName : Log.Level → String
  | .error => "ERROR"
  | .warn => "WARN"
  | .info => "INFO"
  | .debug => "DEBUG"
  | .trace => "TRACE"

/-- The text of a value of an event. -/
def valueText : Log.Value → String
  | .text s => s
  | .number n => toString n
  | .real x => describeTime x

def eventLine (form : LogForm) (e : Log.Event) : String :=
  match form with
  | .text =>
    levelName e.level ++ " " ++ e.message ++
      String.join (e.fields.map fun (k, v) => " " ++ k ++ "=" ++ valueText v)
  | .json =>
    Report.object ([("level", Text.quoted (levelName e.level)),
      ("message", Text.quoted e.message)] ++
      e.fields.map fun (k, v) => (k, Text.quoted (valueText v)))

/-- Writes the events of a result that are severe enough, and returns its value. -/
def tell {α : Type} (i : Invocation) (x : Logged α) : IO α := do
  for e in x.log do
    if rank e.level ≤ rank i.logLevel then IO.eprintln (eventLine i.logForm e)
  return x.value

/-! ### A device -/

/-- What the listening task shares with the main thread. -/
structure Shared where
  connection : Connection
  /-- Whether the task is at work. -/
  listening : Bool := false
  /-- Whether a command waits for its answer. The task rests once the answer has arrived. -/
  asking : Bool := false
  /-- The pieces that have arrived for the command, the latest first. -/
  pieces : List (List UInt8) := []

/-- An open device: the handles of its file, and what the tasks share. -/
structure Live where
  invocation : Invocation
  reader : IO.FS.Handle
  writer : IO.FS.Handle
  shared : IO.Ref Shared

/-- The time of the clock in seconds. -/
def wallClock : IO Float := do
  let now ← Std.Time.Timestamp.now
  return Float.ofInt now.toNanosecondsSinceUnixEpoch.val / 1000000000

/-- The reading of the clock that only goes forward. -/
def clockReading : IO Duration := return ⟨← IO.monoNanosNow⟩

/-- A piece arrives. An empty one is the end of the file. -/
def Shared.arrive (s : Shared) (piece : List UInt8) : Shared :=
  let connection := if piece = [] then s.connection.hangUp else s.connection.receive [piece]
  { s with
    connection
    pieces := if s.asking then piece :: s.pieces else []
    listening := connection.isRunning && !(s.asking && connection.inbox.mailbox.isSome) }

/-- The session of a desk as it is now. -/
def Shared.session (s : Shared) (desk : Desk) (clock : Float) : Session Connection :=
  { desk.session with clock, carrier := s.connection }

/-- Starts a command. The packet that the node hears is still to be written, and a copy of the
session without a reply takes in what arrives until then. -/
def Shared.ask (s : Shared) (session : Session Connection) (c : Command) : Shared :=
  { s with connection := (session.perform c).value.2.carrier, asking := true, pieces := [] }

/-- Ends a command. What has arrived for it is the reply of the node. -/
def Shared.settle (s : Shared) (session : Session Connection) (c : Command) :
    Logged (Except CommandError Unit × Session Connection) × Shared :=
  let node := { session.carrier.node with replies := [some s.pieces.reverse] }
  let done := { session with carrier.node := node }.perform c
  let replied := done.value.2.carrier
  let connection := if s.connection.isRunning then replied else replied.hangUp
  (done, { s with connection, asking := false })

namespace Live

/-- Reads the file byte by byte until it ends or the task may rest. -/
partial def listen (d : Live) : IO Unit := do
  let piece ← try pure (← d.reader.read 1).toList catch _ => pure []
  let goOn ← d.shared.modifyGet fun s =>
    let s := s.arrive piece
    (s.listening, s)
  if goOn then listen d

/-- Has a task listen to the file. A task that waits for a byte keeps the program from ending. -/
def hear (d : Live) : IO Unit := do
  let idle ← d.shared.modifyGet fun s =>
    let idle := s.connection.isRunning && !s.listening
    (idle, { s with listening := s.listening || idle })
  if idle then
    let _ ← IO.asTask d.listen .dedicated

/-- Waits for an answer, and no longer than until the deadline. -/
partial def await (d : Live) (deadline : Duration) : IO Unit := do
  let c := (← d.shared.get).connection
  let now ← clockReading
  if c.inbox.mailbox.isNone && c.isRunning && now.nanoseconds < deadline.nanoseconds then
    IO.sleep 1
    await d deadline

/-- Writes the frames of packets and waits for an answer. -/
def send (d : Live) (timeout : Duration) (packets : List Packet) : IO Unit := do
  d.hear
  for p in packets do
    if let .ok wire := Frame.encode p then d.writer.write ⟨wire.toArray⟩
  d.writer.flush
  d.await ⟨(← clockReading).nanoseconds + timeout.nanoseconds⟩

def perform (d : Live) (desk : Desk) (c : Command) : IO (Except CommandError Unit × Desk) := do
  let clock ← wallClock
  let (session, packets) ← d.shared.modifyGet fun s =>
    let session := s.session desk clock
    let asking := s.ask session c
    ((session, asking.connection.node.heard.drop session.carrier.node.heard.length), asking)
  unless packets.isEmpty do d.send session.carrier.timeout packets
  let (result, session) ← tell d.invocation (← d.shared.modifyGet fun s => s.settle session c)
  return (result, { desk with session })

/-- Reports records as they arrive, turn by turn, until the watch ends. -/
partial def report (d : Live) (form : Report.Form) (w : Watch) (s : Watching) (desk : Desk) :
    IO (Unit × Desk) := do
  if s.ending.isSome then return ((), desk)
  d.hear
  let clock ← wallClock
  let moment : Moment := { clock := ← clockReading, decoded := 1 }
  let (t, desk) ← tell d.invocation (← d.shared.modifyGet fun shared =>
    let met := { desk with session := shared.session desk clock }.meet moment
    (met, { shared with connection := met.value.2.session.carrier }))
  let (r, s) := w.turn s t
  match r with
  | some r => IO.print (Report.record form r)
  | none => IO.sleep 10
  report d form w s desk

/-- The handles of the file of a device, which is opened for reading and for writing. -/
def handles (path : String) : IO (Except ConnectionError (IO.FS.Handle × IO.FS.Handle)) := do
  let refused (text : String) : Except ConnectionError (IO.FS.Handle × IO.FS.Handle) :=
    .error (.serial (.notOpened path text))
  match ← (IO.FS.Handle.mk path .read).toBaseIO with
  | .error (.noFileOrDirectory ..) => return refused "No such file or directory"
  | .error (.permissionDenied ..) => return refused "Permission denied"
  | .error e => return refused (toString e)
  | .ok reader =>
    unless ← reader.isTty do return refused "Not a typewriter"
    return .ok (reader, ← IO.FS.Handle.mk path .append)

def «open» (i : Invocation) (t : Target) : IO (Except Failure Live) := do
  match ← handles t.path with
  | .error e => return .error (t.refusal e)
  | .ok (reader, writer) =>
    let host : Host := { line := fun _ => .ok { replies := [] } }
    match host.open t with
    | .error f => return .error f
    | .ok connection =>
      tell i (Log.emit .info "opened serial device"
        [("path", .text t.path), ("baud", .number t.baud)])
      return .ok { invocation := i, reader, writer, shared := ← IO.mkRef { connection } }

/-- The desk at which the program works on a device. It has no worker. -/
def desk (d : Live) : IO Desk := do
  return { session := { clock := ← wallClock, carrier := (← d.shared.get).connection } }

end Live

/-! ### Plans -/

/-- The device files that serial devices have. -/
def deviceNames : List String :=
  ["/dev/ttyACM", "/dev/ttyS", "/dev/ttyUSB"].flatMap fun name =>
    (List.range 32).map fun n => name ++ toString n

def devices : IO (List String) :=
  deviceNames.filterM fun name => return (← (IO.FS.realPath name).toBaseIO).isOk

/-- Sends one command to a device and reports it. -/
def sendOne (d : Live) (form : Report.Form) (path name : String) (c : Command) :
    IO (Except Halt Unit) := do
  let (result, _) ← d.perform (← d.desk) c
  match result with
  | .error e => return .error (.failure (.ofCommandError e))
  | .ok () =>
    IO.print (Report.commandDone form name path (← wallClock).toUInt64.toNat)
    return .ok ()

def watch (d : Live) (form : Report.Form) (w : Watch) : IO (Except Halt Unit) := do
  let (result, _) ← w.conduct d.perform (d.report form w {}) (← d.desk)
  return Halt.lift (result.mapError .ofCommandError)

def carryOut (i : Invocation) (form : Report.Form) : Plan → IO (Except Halt Unit)
  | .print text => do
    IO.print text
    return .ok ()
  | .listDevices => do
    IO.print (Report.devices form (← devices))
    return .ok ()
  | .send target command name => do
    match ← Live.open i target with
    | .error f => return .error (.failure f)
    | .ok d => sendOne d form target.path name command
  | .watch target w => do
    match ← Live.open i target with
    | .error f => return .error (.failure f)
    | .ok d => watch d form w

/-- The exit code of a program that panics. -/
def panicCode : UInt32 := 101

/-- What is told about words that make no sense. -/
def usageText : ArgumentError → String
  | .displayVersion => versionText
  | _ =>
    "Usage: cnlink [--format FORMAT] [--log-format FORMAT] [--log-level LEVEL] COMMAND\n" ++
      String.join (Subcommand.all.map fun (name, _) => "  " ++ name ++ "\n")

end ControlNode.Main

open ControlNode in
/-- Runs the program and returns its exit code. -/
def main (args : List String) : IO UInt32 := do
  let tty ← IO.getEnv "CNLINK_TTY"
  let baud ← IO.getEnv "CNLINK_BAUD"
  let environment (name : String) : Option String :=
    if name = "CNLINK_TTY" then tty else if name = "CNLINK_BAUD" then baud else none
  match Cli.Invocation.parse environment args with
  | .error e =>
    if e.code = 0 then IO.print (Main.usageText e) else IO.eprint (Main.usageText e)
    return e.code.toUInt32
  | .ok i =>
    let form := i.form.getD (if ← (← IO.getStdout).isTty then .table else .json)
    let result ← match i.request.plan (← Main.clockReading) (.ok ()) with
      | .error halt => pure (.error halt)
      | .ok plan => Main.carryOut i form plan
    match result with
    | .ok () => return 0
    | .error (.failure f) =>
      IO.eprintln ("error: " ++ f.message)
      return f.code.number.toUInt32
    | .error (.panic message) =>
      IO.eprintln ("panicked: " ++ message)
      return Main.panicCode
