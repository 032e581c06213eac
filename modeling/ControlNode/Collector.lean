import ControlNode.Session.Basic

/-!
# Collecting records in the background

A `Collector` owns the receiving end of a queue of measurement packets. While its worker runs, it
takes one packet after the other, decodes it in the session and gathers the record. The worker
ends when it finds the queue empty and closed, but it counts as running until it is stopped.
-/

namespace ControlNode

inductive Collector.Worker where
  | absent
  | active
  | finished
deriving DecidableEq, Repr

inductive CollectorError where
  | alreadyRunning
  | spawn (text : String)
deriving DecidableEq, Repr

/-- What is told about a worker that was not started. -/
def CollectorError.message : CollectorError → String
  | .alreadyRunning => "measures reader already running"
  | .spawn text => "failed to spawn measures thread: " ++ text

/-- A session, the queue, and the records gathered so far. -/
structure Collector (σ : Type) where
  session : Session σ
  queue : List Packet := []
  closed : Bool := false
  worker : Collector.Worker := .absent
  records : List Record := []

namespace Collector

variable {σ : Type}

/-- Whether a worker was started and not stopped. -/
def isRunning (c : Collector σ) : Bool := c.worker != .absent

/-- Starts a worker. There is never more than one. -/
def start (c : Collector σ) : Except CollectorError Unit × Collector σ :=
  if c.isRunning then (.error .alreadyRunning, c) else (.ok (), { c with worker := .active })

/-- Stops the worker, and tells whether there was one. -/
def stop (c : Collector σ) : Bool × Collector σ :=
  (c.isRunning, { c with worker := .absent })

/-- Adds a packet to the queue, and tells whether the queue took it. -/
def push (c : Collector σ) (p : Packet) : Bool × Collector σ :=
  if c.closed then (false, c) else (true, { c with queue := c.queue ++ [p] })

def close (c : Collector σ) : Collector σ := { c with closed := true }

/-- One step of the worker: it takes a packet, or finds that there will be no more. -/
def work (c : Collector σ) : Collector σ :=
  if c.worker = .active then
    match c.queue with
    | p :: queue =>
      let (record, session) := (c.session.decode p).value
      { c with session, queue, records := c.records ++ record.toList }
    | [] => if c.closed then { c with worker := .finished } else c
  else c

def workFor (c : Collector σ) : Nat → Collector σ
  | 0 => c
  | n + 1 => c.work.workFor n

/-- Lets the worker take all packets that wait. -/
def settle (c : Collector σ) : Collector σ := c.workFor (c.queue.length + 1)

/-- Hands over the records gathered since the last time. -/
def takeRecords (c : Collector σ) : List Record × Collector σ :=
  (c.records, { c with records := [] })

end Collector

end ControlNode
