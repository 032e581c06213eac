import ControlNode.Proofs.Connection.Exchange
import ControlNode.Proofs.Connection.History
import ControlNode.Proofs.Connection.Threads
import ControlNode.Proofs.Inbox.Pairing

/-!
# Histories of a connection as runs

The threads of a connection can do whatever a history of a connection does, if no thread interrupts
another: the reader takes its turns until nothing is left to route, and every caller is done before
the next one begins. So what holds after every run of the threads holds after every history
(`exists_run_of_history`).
-/

namespace ControlNode.Connection.Threads

open Inbox

variable {ι : Type} [DecidableEq ι] {s : State ι} {i : ι} {l l' : Listener} {x x' : Inbox}
  {caller caller' : ι → Caller} {told told' : List Reply}

/-- What a step tells whoever takes measurements or sends commands. -/
def Event.told? : Event ι → Option Reply
  | take p => some (.taken p)
  | refuse _ _ => some (.answered none)
  | answer _ a => some (.answered a)
  | _ => none

/-- The threads are where a listener is between its turns. -/
structure Shows (l : Listener) (x : Inbox) (caller : ι → Caller) (s : State ι) : Prop where
  up : s.up = l.running
  intake : l.running = true → s.intake = l.intake
  inbox : s.inbox = x
  reader : s.reader = if l.running then .looking else .gone
  caller : s.caller = caller
  claimed : s.unclaimed = false → s.up = false

/-- The threads can go on to where the listener, the inbox and the callers are as given, and on the
way exactly the given replies are told. -/
def Reaches (s : State ι) (l : Listener) (x : Inbox) (caller : ι → Caller) (told : List Reply) :
    Prop :=
  ∃ τ s', Trace Step s τ s' ∧ Shows l x caller s' ∧ τ.filterMap Event.told? = told

namespace Reaches

lemma refl (h : Shows l x caller s) : Reaches s l x caller [] := ⟨[], s, .nil s, h, rfl⟩

lemma trans (h : Reaches s l x caller told)
    (h' : ∀ s', Shows l x caller s' → Reaches s' l' x' caller' told') :
    Reaches s l' x' caller' (told ++ told') := by
  obtain ⟨τ₁, s₁, trace₁, shows₁, htold₁⟩ := h
  obtain ⟨τ₂, s₂, trace₂, shows₂, htold₂⟩ := h' s₁ shows₁
  refine ⟨τ₁ ++ τ₂, s₂, trace₁.trans trace₂, shows₂, ?_⟩
  rw [List.filterMap_append, htold₁, htold₂]

end Reaches

/-! ### The reader -/

lemma reaches_turn (h : Shows l x caller s) :
    Reaches s (l.turn x).1 (l.turn x).2 caller [] := by
  cases hrunning : l.running with
  | false =>
    rw [Listener.turn_of_not_running hrunning]
    exact .refl h
  | true =>
    have hup : s.up = true := h.up.trans hrunning
    have hreader : s.reader = .looking := by
      rw [h.reader, if_pos hrunning]
    have look : Step s .look { s with reader := .reading } := by
      have hlook := Step.look hreader
      rwa [if_pos hup] at hlook
    have hintake := h.intake hrunning
    rw [Listener.turn, if_pos hrunning]
    rcases hnext : l.intake.next with ⟨e | p?, intake⟩
    · rw [← hintake] at hnext
      refine ⟨_, _, .cons look (.cons (.fail rfl hnext) (.single (.exit rfl))), ?_, rfl⟩
      exact ⟨rfl, by simp, h.inbox, rfl, h.caller, fun _ => rfl⟩
    · rw [← hintake] at hnext
      cases p? with
      | none =>
        refine ⟨_, _, .cons look (.single (.silence rfl hnext)), ?_, rfl⟩
        exact ⟨h.up, fun _ => rfl, h.inbox, by simp [hrunning], h.caller, h.claimed⟩
      | some p =>
        refine ⟨_, _, .cons look (.cons (.read rfl hnext) (.single (.route rfl))), ?_, rfl⟩
        exact ⟨h.up, fun _ => rfl, by rw [← h.inbox], by simp [hrunning], h.caller, h.claimed⟩

lemma reaches_turns (n : Nat) (h : Shows l x caller s) :
    Reaches s (Listener.turns n l x).1 (Listener.turns n l x).2 caller [] := by
  induction n generalizing l x s with
  | zero => exact .refl h
  | succ n ih => exact (reaches_turn h).trans fun s' h' => ih h'

/-- More arrives on the line, and the reader takes all that it can. -/
lemma reaches_catchUp (h : Shows l x caller s) (arrivals : List Line.Arrival) :
    let caught := (l.arrive arrivals).catchUp x
    Reaches s caught.1 caught.2 caller [] := by
  have arrive : Reaches s (l.arrive arrivals) x caller [] := by
    refine ⟨_, _, .single (.arrive arrivals), ?_, rfl⟩
    refine ⟨h.up, fun hrunning => ?_, h.inbox, h.reader, h.caller, h.claimed⟩
    show { s.intake with source.arrivals := s.intake.source.arrivals ++ arrivals } = _
    rw [h.intake hrunning]
    rfl
  exact arrive.trans fun s' h' => reaches_turns _ h'

lemma reaches_take (h : Shows l x caller s) :
    Reaches s l x.receive.2 caller [.taken x.receive.1] := by
  rw [← h.inbox]
  exact ⟨_, _, .single .take, ⟨h.up, h.intake, rfl, h.reader, h.caller, h.claimed⟩, rfl⟩

/-! ### One caller -/

/-- Caller `i` is at `y`, and all others are idle. -/
def only (i : ι) (y : Caller) : ι → Caller := Function.update (fun _ => .idle) i y

lemma only_self (i : ι) (y : Caller) : only i y i = y := by
  rw [only, Function.update_self]

lemma only_idle (i : ι) : only i .idle = fun _ => .idle := Function.update_eq_self i _

namespace Shows

variable {y z : Caller}

lemma at_self (h : Shows l x (only i y) s) : s.caller i = y := by
  rw [h.caller, only_self]

/-- The caller goes on, and nothing else is different. -/
lemma move (h : Shows l x (only i y) s) (z : Caller) : Shows l x (only i z) (s.move i z) where
  up := h.up
  intake := h.intake
  inbox := h.inbox
  reader := h.reader
  caller := by
    rw [State.move, h.caller]
    exact Function.update_idem ..
  claimed := h.claimed

omit [DecidableEq ι] in
/-- Another inbox is shown when only the inbox is different. -/
lemma withInbox (h : Shows l x caller s) (x' : Inbox) :
    Shows l x' caller { s with inbox := x' } :=
  ⟨h.up, h.intake, rfl, h.reader, h.caller, h.claimed⟩

end Shows

/-- The caller empties the mailbox, and writes the frame of the command. -/
lemma reaches_write {command : Packet} {wire : List UInt8} (h : Shows l x (only i .idle) s)
    (hrunning : l.running = true) (hframe : Frame.encode command = .ok wire) :
    Reaches s l x.discardStale.value (only i (.awaiting command)) [] := by
  have call := Step.call command h.at_self (h.up.trans hrunning)
  have hcalled := h.move (.sending command)
  have prepare := Step.prepare hcalled.at_self hframe
  have hprepared := (hcalled.move (.writing command wire)).withInbox x.discardStale.value
  rw [hcalled.inbox] at prepare
  have write := Step.write hprepared.at_self
  have hwritten := hprepared.move (.awaiting command)
  refine ⟨_, _, .cons call (.cons prepare (.single write)), ?_, rfl⟩
  exact ⟨hwritten.up, hwritten.intake, hwritten.inbox, hwritten.reader, hwritten.caller,
    hwritten.claimed⟩

lemma reaches_answer {command : Packet} (timeout : Duration)
    (h : Shows l x (only i (.awaiting command)) s) :
    Reaches s l { x with mailbox := none } (only i .idle) [.answered x.mailbox] := by
  have answer := Step.answer timeout h.at_self
  rw [value_claim, h.inbox] at answer
  exact ⟨_, _, .single answer, (h.move .idle).withInbox _, rfl⟩

lemma reaches_unframed {command : Packet} {e : Frame.Error} (h : Shows l x (only i .idle) s)
    (hrunning : l.running = true) (hframe : Frame.encode command = .error e) :
    Reaches s l x.discardStale.value (only i .idle) [.answered none] := by
  have call := Step.call command h.at_self (h.up.trans hrunning)
  have hcalled := h.move (.sending command)
  have prepare := Step.unframed hcalled.at_self hframe
  have hprepared := (hcalled.move .failing).withInbox x.discardStale.value
  rw [hcalled.inbox] at prepare
  have giveUp := Step.giveUp hprepared.at_self
  exact ⟨_, _, .cons call (.cons prepare (.single giveUp)), hprepared.move .idle, rfl⟩

lemma reaches_exchange {c : Connection} (h : Shows c.listener c.inbox (only i .idle) s)
    (command : Packet) :
    let done := (c.exchange command).value
    Reaches s done.2.listener done.2.inbox (only i .idle) [.answered done.1] := by
  cases hrunning : c.isRunning with
  | false =>
    have refuse := Step.refuse command h.at_self (h.up.trans hrunning)
    rw [value_exchange_of_down hrunning]
    exact ⟨_, _, .single refuse, h, rfl⟩
  | true =>
    simp only [exchange, if_pos hrunning, Logged.value_bind, Logged.value_pure]
    cases hframe : Frame.encode command with
    | error e =>
      rw [value_sendAndWait_of_error c.timeout hframe]
      exact reaches_unframed h hrunning hframe
    | ok wire =>
      have hwrite := value_write c.listener c.node wire c.inbox.discardStale.value
      rw [value_sendAndWait_of_ok c.timeout hframe hwrite]
      -- What the node replies arrives between the write and the answer.
      refine (reaches_write h hrunning hframe).trans fun s₁ h₁ => ?_
      refine (reaches_catchUp h₁ (arrivals (c.node.hear wire).1)).trans fun s₂ h₂ => ?_
      exact reaches_answer c.timeout h₂

/-- A reader that is about to look at the flag of a connection that is not up ends. -/
lemma trace_gone (hdown : s.up = false) (hreader : s.reader = .looking ∨ s.reader = .gone) :
    ∃ τ, Trace Step s τ { s with up := false, reader := .gone } ∧
      τ.filterMap Event.told? = [] := by
  rcases hreader with hreader | hreader
  · have look : Step s .look { s with reader := .leaving } := by
      have hlook := Step.look hreader
      rwa [if_neg (by simp [hdown])] at hlook
    exact ⟨_, .cons look (.single (.exit rfl)), rfl⟩
  · rw [← hdown, ← hreader]
    exact ⟨[], .nil s, rfl⟩

/-- The first stop shuts the line down. -/
lemma trace_shut (h : Shows l x (only i .idle) s) (hclaimed : s.unclaimed = true) :
    ∃ s', Trace Step s [.stop i, .takeOn i, .shut i] s' ∧
      s'.up = false ∧ s'.inbox = x ∧ s'.reader = s.reader ∧ s'.caller = only i .joining := by
  have hstopping := h.move .stopping
  have hclosing := hstopping.move .closing
  have hjoining := hclosing.move .joining
  refine ⟨_, .cons (.stop h.at_self) (.cons (.takeOn hstopping.at_self hclaimed)
    (.single (.shut hclosing.at_self))), rfl, h.inbox, rfl, hjoining.caller⟩

/-- The first stop ends the reader, unless that has ended by itself. -/
lemma reaches_stop (h : Shows l x (only i .idle) s) : Reaches s l.stop x (only i .idle) [] := by
  have hdown {s' : State ι} (hup : s'.up = false) (hinbox : s'.inbox = x)
      (hreader : s'.reader = .gone) (hcaller : s'.caller = only i .idle) :
      Shows l.stop x (only i .idle) s' :=
    ⟨hup, nofun, hinbox, hreader, hcaller, fun _ => hup⟩
  cases hclaimed : s.unclaimed with
  | false =>
    have hgone : s.reader = .gone := by
      rw [h.reader, ← h.up, h.claimed hclaimed]
      rfl
    have hstopping := h.move .stopping
    refine ⟨_, _, .cons (.stop h.at_self) (.single (.pass hstopping.at_self hclaimed)), ?_, rfl⟩
    exact hdown rfl h.inbox hgone (hstopping.move .idle).caller
  | true =>
    obtain ⟨s₁, shut, hup, hinbox, hreader, hcaller⟩ := trace_shut h hclaimed
    have hended : s₁.reader = .looking ∨ s₁.reader = .gone := by
      rw [hreader, h.reader]
      split <;> simp
    obtain ⟨τ, ends, htold⟩ := trace_gone hup hended
    have hjoining : s₁.caller i = .joining := by
      rw [hcaller, only_self]
    refine ⟨_, _, shut.trans (ends.trans (.single (.join hjoining rfl))), ?_, ?_⟩
    · refine hdown rfl hinbox rfl ?_
      rw [State.move, hcaller]
      exact Function.update_idem ..
    · rw [List.filterMap_append, List.filterMap_append, htold]
      rfl

/-! ### Histories -/

/-- Something arrives from the node, to which a connection listens while it is up. -/
lemma reaches_listen {c : Connection} (h : Shows c.listener c.inbox (only i .idle) s)
    (arrivals : List Line.Arrival) :
    let caught := (c.listener.arrive arrivals).catchUp c.inbox
    let c' := if c.isRunning then { c with listener := caught.1, inbox := caught.2 } else c
    Reaches s c'.listener c'.inbox (only i .idle) [] := by
  intro caught c'
  by_cases hrunning : c.isRunning = true
  · rw [show c' = { c with listener := caught.1, inbox := caught.2 } from if_pos hrunning]
    exact reaches_catchUp h arrivals
  · rw [show c' = c from if_neg hrunning]
    exact .refl h

lemma reaches_step {c : Connection} (h : Shows c.listener c.inbox (only i .idle) s) (op : Op) :
    let done := c.step op
    Reaches s done.2.listener done.2.inbox (only i .idle) ([done.1].filter (· ≠ .done)) := by
  cases op with
  | send command => exact reaches_exchange h command
  | receive pieces => exact reaches_listen h (arrivals pieces)
  | take => exact reaches_take h
  | hangUp => exact reaches_listen h [.data []]
  | stop => exact reaches_stop h

lemma reaches_run {c : Connection} (h : Shows c.listener c.inbox (only i .idle) s)
    (ops : List Op) :
    let done := c.run ops
    Reaches s done.2.listener done.2.inbox (only i .idle) (done.1.filter (· ≠ .done)) := by
  induction ops generalizing c s with
  | nil => exact .refl h
  | cons op ops ih =>
    have hreplies : (c.run (op :: ops)).1.filter (· ≠ .done) =
        [(c.step op).1].filter (· ≠ .done) ++ ((c.step op).2.run ops).1.filter (· ≠ .done) :=
      List.filter_append [_] _
    simp only [hreplies]
    exact (reaches_step h op).trans fun s' h' => ih h'

/-- Any history of a new connection is a run of the reader and one caller, which is told the same
and leaves the connection up or not, the inbox, and what has not been read as they are left by the
history. -/
theorem exists_run_of_history (i : ι) (timeout : Duration) (node : Node) (ops : List Op) :
    let done := ({ timeout, node } : Connection).run ops
    ∃ τ s, Run τ s ∧ τ.filterMap Event.told? = done.1.filter (· ≠ .done) ∧
      Shows done.2.listener done.2.inbox (fun _ => .idle) (s : State ι) := by
  intro done
  have hnew : Shows ({ timeout, node } : Connection).listener {} (only i .idle) ({} : State ι) :=
    ⟨rfl, fun _ => rfl, rfl, rfl, (only_idle i).symm, nofun⟩
  obtain ⟨τ, s, run, shows, htold⟩ := reaches_run hnew ops
  exact ⟨τ, s, run, htold, only_idle i ▸ shows⟩

end ControlNode.Connection.Threads
