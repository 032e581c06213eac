import ControlNode.Connection.Basic
import ControlNode.Proofs.Connection.Listener
import ControlNode.Proofs.Trace
import Mathlib.Data.List.Count

/-!
# Histories of a connection

A history is any sequence of commands, data, hang-ups, receptions and stops. A stop ends a
connection, and so does a node that hangs up, in any order. From then on a history changes nothing
but that measurements which wait are taken (`Connection.afterEnd`).
-/

namespace ControlNode.Connection

/-! ### Histories -/

/-- What can happen to a connection. -/
inductive Op where
  | send (command : Packet)
  | receive (pieces : List (List UInt8))
  | take
  | hangUp
  | stop
deriving DecidableEq

/-- What an operation returns. -/
inductive Reply where
  | done
  | answered (answer : Option Packet)
  | taken (p : Option Packet)
deriving DecidableEq

def Reply.taken? : Reply → Option Packet
  | taken p => p
  | done | answered _ => none

def step (c : Connection) : Op → Reply × Connection
  | .send command =>
    let (answer, c) := (c.exchange command).value
    (.answered answer, c)
  | .receive pieces => (.done, c.receive pieces)
  | .take =>
    let (p, c) := c.takeMeasurement
    (.taken p, c)
  | .hangUp => (.done, c.hangUp)
  | .stop => (.done, c.stop)

/-- The replies, one for each operation, and what is left. -/
def run (c : Connection) : List Op → List Reply × Connection
  | [] => ([], c)
  | op :: ops =>
    let (reply, c) := c.step op
    let (replies, c) := c.run ops
    (reply :: replies, c)

lemma run_cons (c : Connection) (op : Op) (ops : List Op) :
    c.run (op :: ops) = ((c.step op).1 :: ((c.step op).2.run ops).1, ((c.step op).2.run ops).2) :=
  rfl

/-! ### What ends a connection -/

variable {c : Connection}

lemma isRunning_stop (c : Connection) : c.stop.isRunning = false := rfl

/-- A node that hangs up ends the connection when all that has arrived before was routed. -/
lemma isRunning_hangUp (c : Connection) : c.hangUp.isRunning = false := by
  cases h : c.isRunning with
  | false =>
    rw [hangUp, if_neg (by simp [h])]
    exact h
  | true =>
    have hends : (c.listener.arrive [.data []]).intake.source.Ends :=
      .inr ⟨.data [], List.mem_append_right _ List.mem_cons_self, rfl⟩
    rw [hangUp, if_pos h]
    exact Listener.running_catchUp _ c.inbox hends

/-! ### After the end -/

/-- A connection from which measurements were taken. -/
def skip (c : Connection) (n : Nat) : Connection :=
  { c with inbox.queue := c.inbox.queue.drop n }

lemma stop_of_down (h : c.isRunning = false) : c.stop = c := by
  obtain ⟨name, timeout, ⟨intake, running⟩, inbox, node⟩ := c
  obtain rfl : running = false := h
  rfl

lemma receive_of_down (h : c.isRunning = false) (pieces : List (List UInt8)) :
    c.receive pieces = c := by
  rw [receive, if_neg (by simp [h])]

lemma hangUp_of_down (h : c.isRunning = false) : c.hangUp = c := by
  rw [hangUp, if_neg (by simp [h])]

lemma value_exchange_of_down (h : c.isRunning = false) (command : Packet) :
    (c.exchange command).value = (none, c) := by
  rw [exchange, if_neg (by simp [h])]
  rfl

lemma takeMeasurement_eq (c : Connection) :
    c.takeMeasurement = (c.inbox.queue.head?, c.skip 1) := by
  obtain ⟨name, timeout, listener, ⟨mailbox, queue, tally⟩, node⟩ := c
  cases queue <;> rfl

/-- How many measurements an operation takes at most. -/
def Op.taking : Op → Nat
  | take => 1
  | send _ | receive _ | hangUp | stop => 0

/-- What an operation returns once a connection is not up and the queue is as given. -/
def Op.replyAfterEnd (queue : List Packet) : Op → Reply
  | send _ => .answered none
  | take => .taken queue.head?
  | receive _ | hangUp | stop => .done

lemma step_of_down (h : c.isRunning = false) (op : Op) :
    c.step op = (op.replyAfterEnd c.inbox.queue, c.skip op.taking) := by
  cases op with
  | send command =>
    rw [step, value_exchange_of_down h]
    rfl
  | receive pieces =>
    rw [step, receive_of_down h]
    rfl
  | take =>
    rw [step, takeMeasurement_eq]
    rfl
  | hangUp =>
    rw [step, hangUp_of_down h]
    rfl
  | stop =>
    rw [step, stop_of_down h]
    rfl

lemma run_of_down (h : c.isRunning = false) (op : Op) (ops : List Op) :
    c.run (op :: ops) =
      (op.replyAfterEnd c.inbox.queue :: ((c.skip op.taking).run ops).1,
        ((c.skip op.taking).run ops).2) := by
  rw [run_cons, step_of_down h]

lemma skip_skip (c : Connection) (m n : Nat) : (c.skip m).skip n = c.skip (m + n) := by
  simp only [skip, List.drop_drop]

lemma count_take_cons (op : Op) (ops : List Op) :
    (op :: ops).count .take = op.taking + ops.count .take := by
  cases op <;> simp [Op.taking, Nat.add_comm]

lemma taken?_replyAfterEnd (queue : List Packet) (op : Op) :
    (op.replyAfterEnd queue).taken?.toList = queue.take op.taking := by
  cases op with
  | take => cases queue <;> rfl
  | _ => rfl

/-- What can be said of any history of a connection that is not up. -/
structure AfterEnd (c : Connection) (ops : List Op) : Prop where
  down : (c.run ops).2.isRunning = false
  /-- The node, the mailbox and the counts stay as they are, and so does the queue but for what is
  taken. -/
  left : (c.run ops).2 = c.skip (ops.count .take)
  unanswered : ∀ answer, .answered answer ∈ (c.run ops).1 → answer = none
  /-- What waited is taken in its order. -/
  taken : (c.run ops).1.filterMap Reply.taken? = c.inbox.queue.take (ops.count .take)
  /-- It makes no difference when the stops are left out, to what is left -/
  left_stops : (c.run (ops.filter (· ≠ .stop))).2 = (c.run ops).2
  /-- or to what anybody is told. -/
  told_stops : (c.run (ops.filter (· ≠ .stop))).1.filter (· ≠ .done) =
    (c.run ops).1.filter (· ≠ .done)

lemma AfterEnd.nil (hdown : c.isRunning = false) : AfterEnd c [] :=
  ⟨hdown, rfl, nofun, rfl, rfl, rfl⟩

lemma AfterEnd.cons (hdown : c.isRunning = false) (op : Op) {ops : List Op}
    (later : AfterEnd (c.skip op.taking) ops) : AfterEnd c (op :: ops) where
  down := by
    rw [run_of_down hdown]
    exact later.down
  left := by
    rw [run_of_down hdown, count_take_cons, ← skip_skip]
    exact later.left
  unanswered answer hanswer := by
    rw [run_of_down hdown, List.mem_cons] at hanswer
    rcases hanswer with hanswer | hanswer
    · cases op with
      | send command =>
        cases hanswer
        rfl
      | _ => cases hanswer
    · exact later.unanswered answer hanswer
  taken := by
    rw [run_of_down hdown, filterMap_cons_toList, taken?_replyAfterEnd, count_take_cons,
      List.take_add]
    exact congrArg _ later.taken
  left_stops := by
    cases op with
    | stop =>
      rw [List.filter_cons_of_neg (by simp), run_of_down hdown]
      exact later.left_stops
    | _ =>
      rw [List.filter_cons_of_pos (by simp), run_of_down hdown, run_of_down hdown]
      exact later.left_stops
  told_stops := by
    cases op with
    | stop =>
      rw [List.filter_cons_of_neg (by simp), run_of_down hdown]
      exact later.told_stops
    | _ =>
      rw [List.filter_cons_of_pos (by simp), run_of_down hdown, run_of_down hdown]
      simp only [List.filter_cons, later.told_stops]

lemma afterEnd (hdown : c.isRunning = false) (ops : List Op) : AfterEnd c ops := by
  induction ops generalizing c with
  | nil => exact .nil hdown
  | cons op ops ih => exact .cons hdown op (ih hdown)

end ControlNode.Connection
