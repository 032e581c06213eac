import ControlNode.Connection.Listener
import ControlNode.Proofs.Trace
import Mathlib.Logic.Function.Basic

/-!
# A connection shared by threads

One thread, the reader, listens to the line and routes what arrives, while any number of callers
send commands, take measurements and stop the connection. They share the inbox and a flag that says
whether the connection is up. The reader looks at the flag before each packet and clears it when it
ends; a caller looks at it before each command; a stop clears it, and the first stop also shuts the
line down and waits for the reader. A step is one of these operations, so the steps of the threads
interleave in any order. What the line delivers, and when, is left open, and so is whether commands
wait for each other.
-/

namespace ControlNode.Connection.Threads

/-! ### Threads -/

/-- Where the reader is. -/
inductive Reader where
  /-- It is about to look whether the connection is up. -/
  | looking
  | reading
  | routing (p : Packet)
  /-- It has left its loop, but not cleared the flag yet. -/
  | leaving
  | gone

/-- Where a caller is. -/
inductive Caller where
  | idle
  /-- It has found the connection up. -/
  | sending (command : Packet)
  | writing (command : Packet) (wire : List UInt8)
  | awaiting (command : Packet)
  /-- There was no frame to write, or the write failed. -/
  | failing
  /-- It has cleared the flag. -/
  | stopping
  /-- It is the first that stops, and has to shut the line down. -/
  | closing
  /-- It waits for the reader to be gone. -/
  | joining

/-- Whether a command of the caller is under way. -/
def Caller.isSending : Caller → Bool
  | sending _ | writing _ _ | awaiting _ | failing => true
  | idle | stopping | closing | joining => false

/-- Whether the caller stops the connection, and is not done yet. -/
def Caller.isStopping : Caller → Bool
  | stopping | closing | joining => true
  | idle | sending _ | writing _ _ | awaiting _ | failing => false

/-- Whether the caller ends the reader, which only the first stop does. -/
def Caller.isEnding : Caller → Bool
  | closing | joining => true
  | idle | sending _ | writing _ _ | awaiting _ | failing | stopping => false

/-- How many packets the reader can still route before it looks at the flag. -/
def Reader.ahead : Reader → Nat
  | reading | routing _ => 1
  | looking | leaving | gone => 0

/-! ### States and events -/

/-- What the threads share, and where each of them is. -/
structure State (ι : Type) where
  up : Bool := true
  intake : Frame.Intake := { source := { arrivals := [], ending := .quiet } }
  inbox : Inbox := {}
  /-- All bytes that were written. -/
  written : List UInt8 := []
  /-- Whether nobody has taken it on yet to end the reader. -/
  unclaimed : Bool := true
  reader : Reader := .looking
  caller : ι → Caller := fun _ => .idle

/-- What a step does. -/
inductive Event (ι : Type) where
  | arrive (arrivals : List Line.Arrival)
  | look
  | read (outcome : Except Frame.Error (Option Packet))
  | route (p : Packet)
  | exit
  | take (p : Option Packet)
  /-- A command is turned down, as the connection is not up. -/
  | refuse (i : ι) (command : Packet)
  | call (i : ι) (command : Packet)
  | prepare (i : ι)
  /-- Bytes of a command go out. -/
  | write (i : ι) (bytes : List UInt8)
  /-- A command ends with its answer, or without one. -/
  | answer (i : ι) (answer : Option Packet)
  | stop (i : ι)
  /-- A stop finds that another one ends the reader or has ended it. -/
  | pass (i : ι)
  /-- The first stop takes it on to end the reader. -/
  | takeOn (i : ι)
  | shut (i : ι)
  | join (i : ι)

namespace Event

variable {ι : Type}

def routed? : Event ι → Option Packet
  | route p => some p
  | _ => none

def taken? : Event ι → Option Packet
  | take p => p
  | _ => none

/-- The caller whose command takes the step, unless the command is turned down. -/
def commander? : Event ι → Option ι
  | call i _ | prepare i | write i _ | answer i _ => some i
  | _ => none

/-- The bytes that go out. -/
def sent : Event ι → List UInt8
  | write _ bytes => bytes
  | _ => []

/-- Whether a stop takes the step that has nothing to end. -/
def isIdleStop : Event ι → Bool
  | stop _ | pass _ => true
  | _ => false

end Event

/-! ### Steps -/

variable {ι : Type} [DecidableEq ι]

/-- Caller `i` goes on to where it is at `x`. -/
def State.move (s : State ι) (i : ι) (x : Caller) : State ι :=
  { s with caller := Function.update s.caller i x }

/-- The steps of the line, of the reader, of whoever takes measurements, and of the callers. -/
inductive Step : State ι → Event ι → State ι → Prop
  /-- The line has more to deliver: data, faults or its end. -/
  | arrive {s : State ι} (arrivals : List Line.Arrival) :
      Step s (.arrive arrivals)
        { s with intake.source.arrivals := s.intake.source.arrivals ++ arrivals }
  | look {s : State ι} (hr : s.reader = .looking) :
      Step s .look { s with reader := if s.up then .reading else .leaving }
  | read {s : State ι} {p : Packet} {intake : Frame.Intake} (hr : s.reader = .reading)
      (hnext : s.intake.next = (.ok (some p), intake)) :
      Step s (.read (.ok (some p))) { s with intake, reader := .routing p }
  /-- Nothing has arrived in time. -/
  | silence {s : State ι} {intake : Frame.Intake} (hr : s.reader = .reading)
      (hnext : s.intake.next = (.ok none, intake)) :
      Step s (.read (.ok none)) { s with intake, reader := .looking }
  /-- The line is over. -/
  | fail {s : State ι} {e : Frame.Error} {intake : Frame.Intake} (hr : s.reader = .reading)
      (hnext : s.intake.next = (.error e, intake)) :
      Step s (.read (.error e)) { s with intake, reader := .leaving }
  | route {s : State ι} {p : Packet} (hr : s.reader = .routing p) :
      Step s (.route p) { s with inbox := (s.inbox.route p).value, reader := .looking }
  | exit {s : State ι} (hr : s.reader = .leaving) :
      Step s .exit { s with up := false, reader := .gone }
  | take {s : State ι} : Step s (.take s.inbox.receive.1) { s with inbox := s.inbox.receive.2 }
  | refuse {s : State ι} {i : ι} (command : Packet) (hi : s.caller i = .idle)
      (hdown : s.up = false) : Step s (.refuse i command) s
  | call {s : State ι} {i : ι} (command : Packet) (hi : s.caller i = .idle) (hup : s.up = true) :
      Step s (.call i command) (s.move i (.sending command))
  /-- The caller empties the mailbox; there is a frame to write. -/
  | prepare {s : State ι} {i : ι} {command : Packet} {wire : List UInt8}
      (hi : s.caller i = .sending command) (hframe : Frame.encode command = .ok wire) :
      Step s (.prepare i)
        { s.move i (.writing command wire) with inbox := s.inbox.discardStale.value }
  /-- The caller empties the mailbox; there is no frame to write. -/
  | unframed {s : State ι} {i : ι} {command : Packet} {e : Frame.Error}
      (hi : s.caller i = .sending command) (hframe : Frame.encode command = .error e) :
      Step s (.prepare i) { s.move i .failing with inbox := s.inbox.discardStale.value }
  /-- All bytes of the frame go out. -/
  | write {s : State ι} {i : ι} {command : Packet} {wire : List UInt8}
      (hi : s.caller i = .writing command wire) :
      Step s (.write i wire) { s.move i (.awaiting command) with written := s.written ++ wire }
  /-- The write fails after some of the bytes, or before all of them. -/
  | spoil {s : State ι} {i : ι} {command : Packet} {wire bytes : List UInt8}
      (hi : s.caller i = .writing command wire) (hbytes : bytes <+: wire) :
      Step s (.write i bytes) { s.move i .failing with written := s.written ++ bytes }
  /-- The caller takes what the mailbox holds, at the latest when its timeout has passed. -/
  | answer {s : State ι} {i : ι} {command : Packet} (timeout : Duration)
      (hi : s.caller i = .awaiting command) :
      Step s (.answer i (s.inbox.claim command timeout).value.1)
        { s.move i .idle with inbox := (s.inbox.claim command timeout).value.2 }
  | giveUp {s : State ι} {i : ι} (hi : s.caller i = .failing) :
      Step s (.answer i none) (s.move i .idle)
  | stop {s : State ι} {i : ι} (hi : s.caller i = .idle) :
      Step s (.stop i) { s.move i .stopping with up := false }
  | pass {s : State ι} {i : ι} (hi : s.caller i = .stopping) (hlater : s.unclaimed = false) :
      Step s (.pass i) (s.move i .idle)
  | takeOn {s : State ι} {i : ι} (hi : s.caller i = .stopping) (hfirst : s.unclaimed = true) :
      Step s (.takeOn i) { s.move i .closing with unclaimed := false }
  /-- No more data comes over the line; what has arrived can still be read. -/
  | shut {s : State ι} {i : ι} (hi : s.caller i = .closing) :
      Step s (.shut i) { s.move i .joining with intake.source.ending := .closed }
  | join {s : State ι} {i : ι} (hi : s.caller i = .joining) (hgone : s.reader = .gone) :
      Step s (.join i) (s.move i .idle)

/-- A run begins with a new connection: it is up, and all threads are about to begin. -/
abbrev Run (τ : List (Event ι)) (s : State ι) : Prop := Trace Step {} τ s

end ControlNode.Connection.Threads
