import ControlNode.Collector
import ControlNode.Proofs.Trace
import Mathlib.Data.List.Induction

/-!
# Histories of a collector

A history is any sequence of starts, stops, pushes, steps of the worker and uses of the session by
others. What its operations yield is read along it (`Collector.along`), from one collector to the
next. A collector counts as running if its worker was started and not stopped since
(`Collector.isRunning_run`).
-/

namespace ControlNode.Collector

variable {σ : Type}

/-! ### Histories -/

/-- What can happen to a collector. -/
inductive Op (σ : Type) where
  | start
  | stop
  | push (p : Packet)
  | close
  /-- The worker takes a step. -/
  | work
  /-- Somebody else uses the session. -/
  | use (f : Session σ → Session σ)
  | setClock (clock : Float)

namespace Op

def isStart : Op σ → Bool
  | start => true
  | _ => false

def isStop : Op σ → Bool
  | stop => true
  | _ => false

def isUse : Op σ → Bool
  | use _ => true
  | _ => false

def isClose : Op σ → Bool
  | close => true
  | _ => false

/-- The packet that is pushed. -/
def pushed? : Op σ → Option Packet
  | push p => some p
  | _ => none

end Op

def step (c : Collector σ) : Op σ → Collector σ
  | .start => c.start.2
  | .stop => c.stop.2
  | .push p => (c.push p).2
  | .close => c.close
  | .work => c.work
  | .use f => { c with session := f c.session }
  | .setClock clock => { c with session.clock := clock }

/-- What a history leaves, from its first operation to the last. -/
def run (c : Collector σ) (ops : List (Op σ)) : Collector σ := ops.foldl step c

/-- The packet that the queue takes by an operation. -/
def taken? (c : Collector σ) : Op σ → Option Packet
  | .push p => if (c.push p).1 then some p else none
  | _ => none

/-- The packet that the worker decodes by an operation. -/
def decoded? (c : Collector σ) : Op σ → Option Packet
  | .work => if c.worker = .active then c.queue.head? else none
  | _ => none

/-- What a start returns. -/
def started? (c : Collector σ) : Op σ → Option (Except CollectorError Unit)
  | .start => some c.start.1
  | _ => none

/-- What a stop returns. -/
def stopped? (c : Collector σ) : Op σ → Option Bool
  | .stop => some c.stop.1
  | _ => none

/-- What operations yield along a history. -/
def along {α : Type} (yield? : Collector σ → Op σ → Option α) (c : Collector σ) :
    List (Op σ) → List α
  | [] => []
  | op :: ops => (yield? c op).toList ++ along yield? (c.step op) ops

lemma run_cons (c : Collector σ) (op : Op σ) (ops : List (Op σ)) :
    c.run (op :: ops) = (c.step op).run ops := rfl

lemma run_concat (c : Collector σ) (ops : List (Op σ)) (op : Op σ) :
    c.run (ops ++ [op]) = (c.run ops).step op :=
  List.foldl_concat ..

/-! ### Starts and stops -/

variable {c : Collector σ}

lemma isRunning_start (c : Collector σ) : c.start.2.isRunning = true := by
  rw [start]
  split
  · assumption
  · rfl

lemma isRunning_push (c : Collector σ) (p : Packet) : (c.push p).2.isRunning = c.isRunning := by
  rw [push]
  split <;> rfl

lemma isRunning_work (c : Collector σ) : c.work.isRunning = c.isRunning := by
  obtain ⟨session, queue, closed, worker, records⟩ := c
  cases worker with
  | active => cases queue <;> cases closed <;> rfl
  | absent | finished => rfl

lemma isRunning_step (c : Collector σ) (op : Op σ) :
    (c.step op).isRunning = true ↔ op.isStart = true ∨ op.isStop = false ∧ c.isRunning = true := by
  cases op with
  | start => simp [step, Op.isStart, isRunning_start]
  | stop => simp [step, Op.isStart, Op.isStop, stop, isRunning]
  | push p => simp [step, Op.isStart, Op.isStop, isRunning_push]
  | work => simp [step, Op.isStart, Op.isStop, isRunning_work]
  | close | use | setClock => simp [step, Op.isStart, Op.isStop, close, isRunning]

/-- A collector counts as running if a worker was started and not stopped since. -/
lemma isRunning_run (session : Session σ) (ops : List (Op σ)) :
    (run { session } ops).isRunning = true ↔ Since Op.isStart Op.isStop ops := by
  induction ops using List.reverseRecOn with
  | nil => simp [not_since_nil, run, isRunning]
  | append_singleton ops op ih => rw [run_concat, isRunning_step, since_concat, ih]

lemma worker_of_not_running (hrunning : c.isRunning = false) : c.worker = .absent := by
  simpa [isRunning] using hrunning

lemma start_eq_error_iff (c : Collector σ) :
    c.start.1 = .error .alreadyRunning ↔ c.isRunning = true := by
  rw [start]
  split <;> simp_all

/-! ### The queue -/

lemma closed_step (c : Collector σ) (op : Op σ) :
    (c.step op).closed = (op.isClose || c.closed) := by
  cases op with
  | start =>
    show c.start.2.closed = c.closed
    rw [start]
    split <;> rfl
  | push p =>
    show (c.push p).2.closed = c.closed
    rw [push]
    split <;> rfl
  | work =>
    show c.work.closed = c.closed
    obtain ⟨session, queue, closed, worker, records⟩ := c
    cases worker with
    | active => cases queue <;> cases closed <;> rfl
    | absent | finished => rfl
  | stop | close | use | setClock => rfl

/-- A queue that is closed takes nothing. -/
lemma along_taken_of_closed (hclosed : c.closed = true) (ops : List (Op σ)) :
    c.along taken? ops = [] := by
  induction ops generalizing c with
  | nil => rfl
  | cons op ops ih =>
    have hnone : taken? c op = none := by
      cases op with
      | push p => simp [taken?, push, hclosed]
      | _ => rfl
    rw [along, hnone, ih (by rw [closed_step, hclosed, Bool.or_true])]
    rfl

/-- An open queue takes all that is pushed until it is closed. -/
lemma along_taken_of_open (hopen : c.closed = false) (ops : List (Op σ)) :
    c.along taken? ops = (ops.takeWhile fun op => !op.isClose).filterMap Op.pushed? := by
  induction ops generalizing c with
  | nil => rfl
  | cons op ops ih =>
    have htaken : taken? c op = op.pushed? := by
      cases op with
      | push p => simp [taken?, push, hopen, Op.pushed?]
      | _ => rfl
    have hclosed := closed_step c op
    rw [along, htaken]
    cases hclose : op.isClose with
    | true =>
      rw [hclose] at hclosed
      rw [List.takeWhile_cons_of_neg (by simp [hclose]), along_taken_of_closed hclosed]
      cases op <;> first | rfl | cases hclose
    | false =>
      rw [hclose, hopen] at hclosed
      rw [List.takeWhile_cons_of_pos (by simp [hclose]), ih hclosed, List.filterMap_cons]
      cases op.pushed? <;> rfl

/-! ### The worker -/

lemma work_of_not_active (hworker : c.worker ≠ .active) : c.work = c := if_neg hworker

lemma work_of_nil (hworker : c.worker = .active) (hqueue : c.queue = []) :
    c.work = if c.closed then { c with worker := .finished } else c := by
  rw [work, if_pos hworker, hqueue]

lemma work_of_cons {p : Packet} {queue : List Packet} (hworker : c.worker = .active)
    (hqueue : c.queue = p :: queue) :
    c.work = { c with
      session := (c.session.decode p).value.2
      queue
      records := c.records ++ (c.session.decode p).value.1.toList } := by
  rw [work, if_pos hworker, hqueue]

lemma workFor_eq_run (c : Collector σ) (n : Nat) :
    c.workFor n = c.run (List.replicate n .work) := by
  induction n generalizing c with
  | zero => rfl
  | succ n ih => exact ih c.work

/-- A worker that takes all packets that wait leaves none. -/
lemma queue_settle (c : Collector σ) (hclosed : c.closed = true) (hworker : c.worker = .active) :
    c.settle.queue = [] ∧ c.settle.worker = .finished := by
  obtain ⟨session, queue, closed, worker, records⟩ := c
  obtain rfl : closed = true := hclosed
  obtain rfl : worker = .active := hworker
  induction queue generalizing session records with
  | nil => exact ⟨rfl, rfl⟩
  | cons p queue ih => exact ih _ _

end ControlNode.Collector
