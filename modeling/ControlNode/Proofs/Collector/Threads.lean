import ControlNode.Collector
import ControlNode.Proofs.Trace
import Mathlib.Logic.Function.Basic

/-!
# A collector with its threads

A worker is a thread of its own, and each start begins a new one. Until a flag is cleared, a worker
takes one packet after the other out of the queue, decodes it in the session, and hands the record
to its consumer. Whoever starts and stops the workers does one thing after the other: a stop clears
the flag and waits for the worker to be gone. Meanwhile packets are pushed, the queue may be closed,
and others use the session; the steps of all of them interleave in any order.
-/

namespace ControlNode.Collector.Threads

/-! ### Threads -/

/-- Where a worker is. -/
inductive Stage where
  /-- It was not started yet, or it has ended. -/
  | gone
  /-- It is about to look at the flag. -/
  | looking
  /-- It waits for a packet. -/
  | waiting
  | holding (p : Packet)
  | handing (r : Record)

namespace Stage

/-- The packet that was taken and is not decoded yet. -/
def packet? : Stage → Option Packet
  | holding p => some p
  | gone | looking | waiting | handing _ => none

/-- The record that the consumer has not got yet. -/
def record? : Stage → Option Record
  | handing r => some r
  | gone | looking | waiting | holding _ => none

/-- Where a worker is when it has decoded a packet. -/
def after : Option Record → Stage
  | some r => handing r
  | none => looking

end Stage

/-- Where whoever starts and stops the workers is. -/
inductive Control where
  | idle
  /-- The flag is set, but there is no worker yet. -/
  | starting
  /-- The worker is to be stopped, but the flag is not cleared yet. -/
  | clearing (k : Nat)
  | joining (k : Nat)

/-! ### States and events -/

/-- What the threads share, and where each of them is. -/
structure State (σ : Type) where
  session : Session σ
  queue : List Packet := []
  closed : Bool := false
  /-- The flag that workers look at. -/
  up : Bool := false
  control : Control := .idle
  /-- The worker that can be stopped. -/
  handle : Option Nat := none
  /-- How many workers were started. -/
  born : Nat := 0
  stage : Nat → Stage := fun _ => .gone

/-- What a step does. -/
inductive Event where
  | push (p : Packet)
  | close
  /-- Somebody else uses the session, to send a command or for something else. -/
  | use
  /-- Time passes. -/
  | tick
  /-- A start is turned down, as there is a worker. -/
  | refuse
  | begin
  | spawn (k : Nat)
  /-- No thread can be had for a worker. -/
  | spawnFail (text : String)
  /-- A stop finds no worker. -/
  | pass
  | halt (k : Nat)
  | clear (k : Nat)
  | join (k : Nat)
  | look (k : Nat)
  | take (k : Nat) (p : Packet)
  /-- No packet has come in time. -/
  | silence (k : Nat)
  /-- The worker finds that there will be no more packets. -/
  | finish (k : Nat)
  | decode (k : Nat) (p : Packet)
  | give (k : Nat) (r : Record)

namespace Event

def pushed? : Event → Option Packet
  | push p => some p
  | _ => none

def decoded? : Event → Option Packet
  | decode _ p => some p
  | _ => none

/-- The record that a consumer gets. -/
def given? : Event → Option Record
  | give _ r => some r
  | _ => none

/-- What a start returns. -/
def started? : Event → Option (Except CollectorError Unit)
  | refuse => some (.error .alreadyRunning)
  | spawn _ => some (.ok ())
  | spawnFail text => some (.error (.spawn text))
  | _ => none

/-- What a stop returns. -/
def stopped? : Event → Option Bool
  | pass => some false
  | join _ => some true
  | _ => none

def isSpawn : Event → Bool
  | spawn _ => true
  | _ => false

/-- Whether a worker begins to be stopped. -/
def isHalt : Event → Bool
  | halt _ => true
  | _ => false

def isUse : Event → Bool
  | use => true
  | _ => false

/-- Whether it is a worker that takes the step. -/
def isWork : Event → Bool
  | look _ | take _ _ | silence _ | finish _ | decode _ _ | give _ _ => true
  | _ => false

end Event

/-! ### Steps -/

variable {σ : Type}

/-- Worker `k` goes on to where it is at `stage`. -/
def State.move (s : State σ) (k : Nat) (stage : Stage) : State σ :=
  { s with stage := Function.update s.stage k stage }

/-- The steps of those who push packets and use the session, of whoever starts and stops the
workers, and of the workers. -/
inductive Step : State σ → Event → State σ → Prop
  | push {s : State σ} (p : Packet) (hopen : s.closed = false) :
      Step s (.push p) { s with queue := s.queue ++ [p] }
  | close {s : State σ} : Step s .close { s with closed := true }
  | use {s : State σ} (session : Session σ) : Step s .use { s with session }
  | tick {s : State σ} (clock : Float) : Step s .tick { s with session.clock := clock }
  | refuse {s : State σ} (hc : s.control = .idle) (hsome : s.handle.isSome = true) :
      Step s .refuse s
  | begin {s : State σ} (hc : s.control = .idle) (hnone : s.handle = none) :
      Step s .begin { s with up := true, control := .starting }
  | spawn {s : State σ} (hc : s.control = .starting) :
      Step s (.spawn s.born)
        { s.move s.born .looking with
          control := .idle, handle := some s.born, born := s.born + 1 }
  | spawnFail {s : State σ} (text : String) (hc : s.control = .starting) :
      Step s (.spawnFail text) { s with up := false, control := .idle }
  | pass {s : State σ} (hc : s.control = .idle) (hnone : s.handle = none) : Step s .pass s
  | halt {s : State σ} {k : Nat} (hc : s.control = .idle) (hsome : s.handle = some k) :
      Step s (.halt k) { s with handle := none, control := .clearing k }
  | clear {s : State σ} {k : Nat} (hc : s.control = .clearing k) :
      Step s (.clear k) { s with up := false, control := .joining k }
  | join {s : State σ} {k : Nat} (hc : s.control = .joining k) (hgone : s.stage k = .gone) :
      Step s (.join k) { s with control := .idle }
  | look {s : State σ} {k : Nat} (hk : s.stage k = .looking) :
      Step s (.look k) (s.move k (if s.up then .waiting else .gone))
  | take {s : State σ} {k : Nat} {p : Packet} {queue : List Packet} (hk : s.stage k = .waiting)
      (hq : s.queue = p :: queue) : Step s (.take k p) { s.move k (.holding p) with queue }
  | silence {s : State σ} {k : Nat} (hk : s.stage k = .waiting) (hq : s.queue = [])
      (hopen : s.closed = false) : Step s (.silence k) (s.move k .looking)
  | finish {s : State σ} {k : Nat} (hk : s.stage k = .waiting) (hq : s.queue = [])
      (hclosed : s.closed = true) : Step s (.finish k) (s.move k .gone)
  | decode {s : State σ} {k : Nat} {p : Packet} (hk : s.stage k = .holding p) :
      Step s (.decode k p)
        { s.move k (.after (s.session.decode p).value.1) with
          session := (s.session.decode p).value.2 }
  | give {s : State σ} {k : Nat} {r : Record} (hk : s.stage k = .handing r) :
      Step s (.give k r) (s.move k .looking)

/-- A run begins with a new collector on a session. -/
abbrev Run (session : Session σ) (τ : List Event) (s : State σ) : Prop :=
  Trace Step { session } τ s

end ControlNode.Collector.Threads
