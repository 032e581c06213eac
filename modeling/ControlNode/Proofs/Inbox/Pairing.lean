import ControlNode.Inbox.History
import ControlNode.Proofs.Frame.Grammar
import ControlNode.Proofs.Inbox.Routing

/-!
# Pairing commands with answers

What sending a command does to an inbox and to a line: `value_sendAndWait_of_error` for a command
without a frame, `value_sendAndWait_of_ok` for all others. As the mailbox is emptied first, the
answer is one that arrives while the frame is written, whatever came before
(`sendAndWait_after_history`).
-/

namespace ControlNode

namespace Inbox

/-! ### Sending a command -/

@[simp] lemma mailbox_discardStale (x : Inbox) : x.discardStale.value.mailbox = none := by
  cases h : x.mailbox <;> simp [discardStale, h]

lemma value_claim (x : Inbox) (command : Packet) (timeout : Duration) :
    (x.claim command timeout).value = (x.mailbox, { x with mailbox := none }) := by
  obtain ⟨mailbox, queue, tally⟩ := x
  cases mailbox <;> rfl

/-- As the mailbox is emptied first, it holds the last answer that arrives afterwards. -/
lemma mailbox_routeAll_discardStale (x : Inbox) (during : List Packet) :
    (x.discardStale.value.routeAll during).value.mailbox = lastAnswer? during := by
  rw [mailbox_routeAll, mailbox_discardStale, Option.or_none]

section

variable {σ : Type} {command : Packet}

/-- What a sender returns and leaves behind when its write has ended. -/
def settle (written : Except Frame.Error Unit) (line : σ) (x : Inbox) :
    Option Packet × σ × Inbox :=
  match written with
  | .ok () => (x.mailbox, line, { x with mailbox := none })
  | .error _ => (none, line, x)

variable {write : Write σ} (timeout : Duration) {line line' : σ} {x x' : Inbox}
  {written : Except Frame.Error Unit}

/-- A command without a frame is not written. -/
lemma value_sendAndWait_of_error {e : Frame.Error} (h : Frame.encode command = .error e) :
    (x.sendAndWait write timeout line command).value = (none, line, x.discardStale.value) := by
  simp [sendAndWait, h]

/-- A command with a frame is written once, to an inbox with an empty mailbox; what the mailbox
holds after the write is its answer, unless the write failed. -/
lemma value_sendAndWait_of_ok {wire : List UInt8} (h : Frame.encode command = .ok wire)
    (hwrite : (write line wire x.discardStale.value).value = (written, line', x')) :
    (x.sendAndWait write timeout line command).value = settle written line' x' := by
  simp only [sendAndWait, h, Logged.value_bind, hwrite]
  cases written with
  | ok => simp [value_claim, settle]
  | error => rfl

end

/-! ### Answers after any history -/

/-- What a write ends with, if it fails exactly when a failure is given. -/
def written : Option Frame.Error → Except Frame.Error Unit
  | some e => .error e
  | none => .ok ()

/-- A write that remembers all frames, lets the packets arrive, and fails if a failure is given. -/
def remembering (during : List Packet) (failure : Option Frame.Error) :
    Write (List (List UInt8)) := fun frames wire x => do
  let x ← x.routeAll during
  return (written failure, frames ++ [wire], x)

lemma value_remembering (during : List Packet) (failure : Option Frame.Error)
    (frames : List (List UInt8)) (wire : List UInt8) (x : Inbox) :
    (remembering during failure frames wire x).value =
      (written failure, frames ++ [wire], (x.routeAll during).value) := rfl

lemma value_recording (during : List Packet) (failure : Option Frame.Error)
    (line : Option (List UInt8)) (wire : List UInt8) (x : Inbox) :
    (recording during failure line wire x).value =
      (written failure, some wire, (x.routeAll during).value) := by
  cases failure <;> rfl

lemma value_step_send (timeout : Duration) (x : Inbox) (command : Packet) (during : List Packet)
    (failure : Option Frame.Error) :
    (x.step timeout (.send command during failure)).value =
      let sent := (x.sendAndWait (recording during failure) timeout none command).value
      (.sent sent.1 sent.2.1, sent.2.2) := rfl

lemma value_run_cons (timeout : Duration) (x : Inbox) (op : Op) (history : List Op) :
    (run timeout x (op :: history)).value =
      let done := (x.step timeout op).value
      let later := (run timeout done.2 history).value
      (done.1 :: later.1, later.2) := rfl

/-- After any history, a command is written at most once, and exactly once if it has a frame. It
is answered if and only if it has a frame, the write succeeds and an answer arrives meanwhile; the
answer is then the last of these, so no packet that arrived before is ever returned. Afterwards
the mailbox holds nothing, unless the write failed: then it holds the last answer that arrived. -/
theorem sendAndWait_after_history (timeout : Duration) (history : List Op)
    (frames : List (List UInt8)) (command : Packet) (during : List Packet)
    (failure : Option Frame.Error) :
    let x := (run timeout {} history).value.2
    let sent := (x.sendAndWait (remembering during failure) timeout frames command).value
    let framed := 1 ≤ command.length ∧ command.length ≤ 255
    let frame := Frame.sync :: UInt8.ofNat command.length :: command
    (sent.1.isSome = true ↔ framed ∧ failure = none ∧ ∃ p ∈ during, p.IsAnswer) ∧
    (∀ a, sent.1 = some a → IsLastAnswer during a) ∧
    sent.1 = (({} : Inbox).sendAndWait (remembering during failure) timeout frames
      command).value.1 ∧
    sent.2.1 = frames ++ (if framed then [frame] else []) ∧
    (∀ a, sent.2.2.mailbox = some a ↔ framed ∧ failure ≠ none ∧ IsLastAnswer during a) ∧
    (x.step timeout (.send command during failure)).value =
      (.sent sent.1 (if framed then some frame else none), sent.2.2) := by
  intro x sent framed frame
  by_cases hframed : framed
  · have hencode : Frame.encode command = .ok frame := Frame.encode_eq_ok_iff.2 ⟨hframed, rfl⟩
    have hsent (y : Inbox) := value_sendAndWait_of_ok timeout hencode
      (value_remembering during failure frames frame y.discardStale.value)
    have hstep := value_sendAndWait_of_ok timeout hencode
      (value_recording during failure none frame x.discardStale.value)
    simp only [sent, value_step_send, hsent, hstep, if_pos hframed]
    cases failure with
    | none =>
      simp only [written, settle, mailbox_routeAll_discardStale]
      refine ⟨?_, fun a => lastAnswer?_eq_some_iff.1, trivial, trivial, by simp, trivial⟩
      simpa [hframed] using isSome_lastAnswer?_iff
    | some e =>
      simp only [written, settle, mailbox_routeAll_discardStale]
      refine ⟨by simp, by simp, trivial, trivial, fun a => ?_, trivial⟩
      simpa [hframed] using lastAnswer?_eq_some_iff
  · obtain ⟨e, hencode⟩ := Frame.exists_encode_eq_error hframed
    simp only [sent, value_step_send, value_sendAndWait_of_error timeout hencode, if_neg hframed]
    simp [hframed]

end Inbox

end ControlNode
