import ControlNode.Proofs.Inbox.Interleaving
import ControlNode.Proofs.Inbox.Pairing

/-!
# Histories as runs

The threads of a shared inbox can do whatever a history of an inbox does: if no thread interrupts
another, packets are routed as by `Inbox.route`, and commands are sent as by `Inbox.sendAndWait`,
with the packets arriving during the write. So what holds after every run of the threads holds
after every history (`exists_run_of_history`).
-/

namespace ControlNode.Inbox

/-- The answer that an operation returns to its caller. -/
def Reply.answer? : Reply → Option Packet
  | sent answer _ => answer
  | routed | received _ => none

namespace Threads

variable {ι : Type} [DecidableEq ι] {τ : List (Event ι)} {s s' : State ι} {e : Event ι} {i : ι}
  {x x' : Sender}

/-! ### Threads that are not interrupted -/

/-- Sender `i` is at `x`, and all other threads are idle. -/
structure Alone (s : State ι) (i : ι) (x : Sender) : Prop where
  courier : s.courier = .idle
  at_self : s.sender i = x
  others : ∀ j, j ≠ i → s.sender j = .idle

lemma idle_update {sender : ι → Sender} (h : ∀ j, j ≠ i → sender j = .idle) :
    ∀ j, j ≠ i → Function.update sender i x j = .idle := by
  intro j hj
  rw [Function.update_of_ne hj]
  exact h j hj

/-- The run can go on to where sender `i` is at `x`, all other threads are idle and the inbox is as
given, and on the way exactly the given answers are returned. -/
def Reaches (τ : List (Event ι)) (i : ι) (x : Sender) (answers : List Packet) (inbox : Inbox) :
    Prop :=
  ∃ τ' s', Run (τ' ++ τ) s' ∧ Alone s' i x ∧
    (returned τ').reverse.map Letter.packet = answers ∧ s'.view = inbox

namespace Reaches

variable {answers answers' : List Packet} {inbox inbox' : Inbox}

lemma trans (h : Reaches τ i x answers inbox)
    (h' : ∀ τ' s', Run τ' s' → Alone s' i x → s'.view = inbox →
      Reaches τ' i x' answers' inbox') :
    Reaches τ i x' (answers ++ answers') inbox' := by
  obtain ⟨τ₁, s₁, run₁, alone₁, hanswers₁, hview₁⟩ := h
  obtain ⟨τ₂, s₂, run₂, alone₂, hanswers₂, hview₂⟩ := h' _ s₁ run₁ alone₁ hview₁
  refine ⟨τ₂ ++ τ₁, s₂, ?_, alone₂, ?_, hview₂⟩
  · rw [List.append_assoc]
    exact run₂
  · rw [returned_append, List.reverse_append, List.map_append, hanswers₁, hanswers₂]

end Reaches

/-! ### Routing -/

lemma reaches_route (h : Run τ s) (hs : Alone s i x) (p : Packet) :
    Reaches τ i x [] (s.view.route p).value := by
  by_cases hp : p.IsAnswer
  · have hroute := value_route_of_answer (x := s.view) ((Packet.kind?_eq_answer_iff p).2 hp)
    have hle := (inv_of_run h).mailbox_le
    have run := h.cons (.accept hs.courier hp)
    match hm : s.mailbox with
    | [] =>
      replace run := run.cons (.offer rfl (by simp [hm, capacity]))
      refine ⟨[_, _], _, run, ⟨rfl, hs.at_self, hs.others⟩, rfl, ?_⟩
      rw [hroute]
      simp [State.view, State.stamp, hm]
    | [stale] =>
      -- Nobody takes the stale letter meanwhile, so the courier displaces it.
      replace run := run.cons (.full rfl (by simp [hm, capacity]))
      replace run := run.cons (.displace rfl hm)
      replace run := run.cons (.retry rfl (by simp [capacity]))
      refine ⟨[_, _, _, _], _, run, ⟨rfl, hs.at_self, hs.others⟩, rfl, ?_⟩
      rw [hroute]
      simp [State.view, State.stamp, hm]
    | _ :: _ :: _ => simp [hm, capacity] at hle
  · have hmailbox : (s.view.route p).value.mailbox = s.view.mailbox := by
      rw [mailbox_route, if_neg hp]
    have run := h.cons (.sort hs.courier hp)
    refine ⟨[_], _, run, ⟨hs.courier, hs.at_self, hs.others⟩, rfl, ?_⟩
    show Inbox.mk s.view.mailbox (s.view.route p).value.queue (s.view.route p).value.tally = _
    rw [← hmailbox]

lemma reaches_routeAll (h : Run τ s) (hs : Alone s i x) (ps : List Packet) :
    Reaches τ i x [] (s.view.routeAll ps).value := by
  induction ps generalizing τ s with
  | nil => exact ⟨[], s, h, hs, rfl, rfl⟩
  | cons p ps ih =>
    refine (reaches_route h hs p).trans fun τ' s' run alone hview => ?_
    rw [value_routeAll_cons, ← hview]
    exact ih run alone

/-! ### Sending a command -/

lemma reaches_discardStale {command : Packet} (h : Run τ s) (hs : Alone s i (.draining command)) :
    Reaches τ i (.afterDrain command) [] s.view.discardStale.value := by
  have hle := (inv_of_run h).mailbox_le
  match hm : s.mailbox with
  | [] =>
    have run := h.cons (.drained hs.at_self hm)
    refine ⟨[_], _, run, ⟨hs.courier, Function.update_self i _ _, idle_update hs.others⟩, rfl, ?_⟩
    simp [State.view, discardStale, hm]
  | [stale] =>
    have run := (h.cons (.drain hs.at_self hm)).cons (.drained hs.at_self rfl)
    refine ⟨[_, _], _, run,
      ⟨hs.courier, Function.update_self i _ _, idle_update hs.others⟩, rfl, ?_⟩
    simp [State.view, discardStale, hm]
  | _ :: _ :: _ => simp [hm, capacity] at hle

/-- A sender that is called when all threads are idle empties the mailbox. -/
lemma reaches_begin (h : Run τ s) (hs : Alone s i .idle) (command : Packet) :
    Reaches τ i (.afterDrain command) [] s.view.discardStale.value := by
  have hfree : s.lock = none := by
    rw [Option.eq_none_iff_forall_ne_some]
    intro j hj
    have hin := ((inv_of_run h).lock j).1 hj
    by_cases hji : j = i
    · rw [hji, hs.at_self] at hin
      cases hin
    · rw [hs.others j hji] at hin
      cases hin
  have run := (h.cons (.call command hs.at_self)).cons (.acquire (Function.update_self i _ _) hfree)
  have reaches : Reaches τ i (.draining command) [] s.view :=
    ⟨[_, _], _, run,
      ⟨hs.courier, Function.update_self i _ _, idle_update (idle_update hs.others)⟩, rfl, rfl⟩
  refine reaches.trans fun τ' s' run' alone' hview => ?_
  rw [← hview]
  exact reaches_discardStale run' alone'

lemma reaches_claim (h : Run τ s) (hs : Alone s i .awaiting) :
    Reaches τ i .idle s.view.mailbox.toList { s.view with mailbox := none } := by
  have hle := (inv_of_run h).mailbox_le
  match hm : s.mailbox with
  | [] =>
    have run := (h.cons (.timeout hs.at_self hm)).cons (.release (Function.update_self i _ _))
    refine ⟨[_, _], _, run, ⟨hs.courier, Function.update_self i _ _, ?_⟩, ?_, ?_⟩
    · exact idle_update (idle_update hs.others)
    · simp [State.view, hm, returned, Event.returned?]
    · simp [State.view, hm]
  | [l] =>
    have run := (h.cons (.receive hs.at_self hm)).cons (.release (Function.update_self i _ _))
    refine ⟨[_, _], _, run, ⟨hs.courier, Function.update_self i _ _, ?_⟩, ?_, ?_⟩
    · exact idle_update (idle_update hs.others)
    · simp [State.view, hm, returned, Event.returned?]
    · simp [State.view]
  | _ :: _ :: _ => simp [hm, capacity] at hle

lemma reaches_settle {wire : List UInt8} (h : Run τ s) (hs : Alone s i (.writing wire))
    (failure : Option Frame.Error) (line : Option (List UInt8)) :
    let settled := settle (written failure) line s.view
    Reaches τ i .idle settled.1.toList settled.2.2 := by
  have run := h.cons (.wrote (written failure) hs.at_self)
  cases failure with
  | some e =>
    replace run := run.cons (.release (Function.update_self i _ _))
    exact ⟨[_, _], _, run,
      ⟨hs.courier, Function.update_self i _ _, idle_update (idle_update hs.others)⟩, rfl, rfl⟩
  | none =>
    have reaches : Reaches τ i .awaiting [] s.view :=
      ⟨[_], _, run, ⟨hs.courier, Function.update_self i _ _, idle_update hs.others⟩, rfl, rfl⟩
    refine reaches.trans fun τ' s' run alone hview => ?_
    rw [← hview]
    exact reaches_claim run alone

lemma reaches_send (h : Run τ s) (hs : Alone s i .idle) (timeout : Duration) (command : Packet)
    (during : List Packet) (failure : Option Frame.Error) :
    let sent := (s.view.sendAndWait (recording during failure) timeout none command).value
    Reaches τ i .idle sent.1.toList sent.2.2 := by
  have hbegin := reaches_begin h hs command
  cases hframe : Frame.encode command with
  | error e =>
    rw [value_sendAndWait_of_error timeout hframe]
    rw [Sender.afterDrain_of_error hframe] at hbegin
    refine hbegin.trans fun τ' s' run alone hview => ?_
    exact ⟨[_], _, run.cons (.release alone.at_self),
      ⟨alone.courier, Function.update_self i _ _, idle_update alone.others⟩, rfl, hview⟩
  | ok wire =>
    rw [value_sendAndWait_of_ok timeout hframe (value_recording during failure none wire _)]
    rw [Sender.afterDrain_of_ok hframe] at hbegin
    refine hbegin.trans fun τ' s' run alone hview => ?_
    rw [← hview]
    refine (reaches_routeAll run alone during).trans fun τ' s' run alone hview => ?_
    rw [← hview]
    exact reaches_settle run alone failure (some wire)

/-! ### Histories -/

lemma reaches_receive (h : Run τ s) (hs : Alone s i x) :
    Reaches τ i x [] s.view.receive.2 := by
  match hq : s.queue with
  | [] =>
    refine ⟨[], s, h, hs, rfl, ?_⟩
    simp [Inbox.receive, State.view, hq]
  | p :: queue =>
    refine ⟨[_], _, h.cons (.collect hq), ⟨hs.courier, hs.at_self, hs.others⟩, rfl, ?_⟩
    simp [Inbox.receive, State.view, hq]

lemma reaches_step (h : Run τ s) (hs : Alone s i .idle) (timeout : Duration) (op : Op) :
    let done := (s.view.step timeout op).value
    Reaches τ i .idle done.1.answer?.toList done.2 := by
  cases op with
  | route p => exact reaches_route h hs p
  | send command during failure => exact reaches_send h hs timeout command during failure
  | receive => exact reaches_receive h hs

lemma reaches_run (h : Run τ s) (hs : Alone s i .idle) (timeout : Duration)
    (history : List Op) :
    let done := (run timeout s.view history).value
    Reaches τ i .idle (done.1.filterMap Reply.answer?) done.2 := by
  induction history generalizing τ s with
  | nil => exact ⟨[], s, h, hs, rfl, rfl⟩
  | cons op history ih =>
    simp only [value_run_cons, filterMap_cons_toList]
    refine (reaches_step h hs timeout op).trans fun τ' s' run alone hview => ?_
    rw [← hview]
    exact ih run alone

/-- Any history is a run of the courier and one sender, which returns the answers of the history
and leaves the same inbox. -/
theorem exists_run_of_history (i : ι) (timeout : Duration) (history : List Op) :
    let done := (run timeout {} history).value
    ∃ τ s, Run τ s ∧ Alone s i .idle ∧
      (returned τ).reverse.map Letter.packet = done.1.filterMap Reply.answer? ∧
      s.view = done.2 := by
  have reaches : Reaches [] i .idle _ _ :=
    reaches_run .nil ⟨rfl, rfl, fun _ _ => rfl⟩ timeout history
  obtain ⟨τ, s, h, hs, hanswers, hview⟩ := reaches
  rw [List.append_nil] at h
  exact ⟨τ, s, h, hs, hanswers, hview⟩

end Threads

end ControlNode.Inbox
