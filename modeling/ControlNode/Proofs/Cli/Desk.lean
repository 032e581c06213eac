import ControlNode.Proofs.Cli.Transcript
import ControlNode.Proofs.Connection.Exchange

/-!
# What happens at a desk

The worker at the desk of a watch takes measurements out of the queue and does nothing else to the
connection, so a command comes to the same whatever the pace of the worker is: it has the result
that its answer is judged to, and the node hears its packet (`Desk.heard_perform`). The turns that
moments make are those that the watch follows (`Watch.reported_report`).
-/

namespace ControlNode

namespace Session

section

variable {σ : Type} [Carrier σ] {s : Session σ} {c : Command}

lemma value_ask_of_ok {p : Packet} (h : c.encode = .ok p) :
    let back := (Carrier.exchange s.carrier p).value
    (s.ask c).value =
      (.ok back.1, { s with
        carrier := back.2
        decoding := s.decoding.request c s.clock }) := by
  simp only [ask, h]
  rfl

lemma value_ask_of_error {e : CommandError} (h : c.encode = .error e) :
    (s.ask c).value = (.error e, s) := by
  simp only [ask, h]
  rfl

end

lemma value_settle {σ : Type} (s : Session σ) (c : Command) (answer : Option Packet) :
    (s.settle c (.ok answer)).value =
      (Command.judge c.tag answer,
        { s with decoding := s.decoding.settle c (Command.judge c.tag answer) }) := by
  rw [← value_conclude]
  rfl

lemma carrier_settle {σ : Type} (s : Session σ) (c : Command)
    (asked : Except CommandError (Option Packet)) : (s.settle c asked).value.2.carrier = s.carrier := by
  cases asked <;> rfl

end Session

namespace Connection

/-- Bytes that arrive leave a connection ready, and do nothing to its node. -/
lemma IsReady.receive {c : Connection} (h : c.IsReady) (pieces : List (List UInt8)) :
    (c.receive pieces).IsReady ∧ (c.receive pieces).node = c.node := by
  have hrunning : c.isRunning = true := h.listener.running
  rw [Connection.receive, if_pos hrunning]
  exact ⟨⟨h.listener.catchUp pieces c.inbox, h.node⟩, rfl⟩

lemma timeout_exchange (c : Connection) (p : Packet) :
    (c.exchange p).value.2.timeout = c.timeout := by
  rw [exchange]
  split <;> rfl

lemma timeout_receive (c : Connection) (pieces : List (List UInt8)) :
    (c.receive pieces).timeout = c.timeout := by
  rw [receive]
  split <;> rfl

lemma timeout_hangUp (c : Connection) : c.hangUp.timeout = c.timeout := by
  rw [hangUp]
  split <;> rfl

end Connection

namespace Cli

namespace Desk

variable {d : Desk} {c : Command}

/-! ### Commands -/

/-- The session of a desk when a command is sent. -/
def beforehand (d : Desk) : Session Connection := (d.work (d.paces.headD {}).before).value.session

/-- A command leaves the connection as sending it does, but for the measurements that the worker
takes. -/
lemma carrier_perform (d : Desk) (c : Command) :
    ∃ n, (d.perform c).value.2.session.carrier =
      { (d.beforehand.ask c).value.2.carrier with
        inbox.queue := (d.beforehand.ask c).value.2.carrier.inbox.queue.drop n } :=
  ⟨(d.paces.headD {}).during, Session.carrier_settle _ c _⟩

/-- The result of a command is what its answer is judged to. -/
lemma result_perform {p : Packet} (h : c.encode = .ok p) :
    (d.perform c).value.1 = Command.judge c.tag (d.beforehand.carrier.exchange p).value.1 := by
  have hask : (d.beforehand.ask c).value.1 = .ok (d.beforehand.carrier.exchange p).value.1 :=
    congrArg Prod.fst (Session.value_ask_of_ok h)
  show (Session.settle _ c (d.beforehand.ask c).value.1).value.1 = _
  rw [hask, Session.value_settle]

lemma timeout_perform (d : Desk) (c : Command) :
    (d.perform c).value.2.session.carrier.timeout = d.session.carrier.timeout := by
  obtain ⟨n, hcarrier⟩ := d.carrier_perform c
  rw [hcarrier]
  cases h : c.encode with
  | error e =>
    rw [Session.value_ask_of_error h]
    rfl
  | ok p =>
    rw [Session.value_ask_of_ok h]
    exact d.beforehand.carrier.timeout_exchange p

/-- Over a connection that is ready, the node hears the packet of a command that has one. -/
lemma heard_perform (h : d.session.carrier.IsReady) (c : Command) :
    (d.perform c).value.2.session.carrier.IsReady ∧
      (d.perform c).value.2.session.carrier.node.heard =
        d.session.carrier.node.heard ++ c.encode.toOption.toList := by
  have hready : d.beforehand.carrier.IsReady := ⟨h.listener, h.node⟩
  obtain ⟨n, hcarrier⟩ := d.carrier_perform c
  rw [hcarrier]
  cases hc : c.encode with
  | error e =>
    rw [Session.value_ask_of_error hc]
    exact ⟨⟨h.listener, h.node⟩, (List.append_nil _).symm⟩
  | ok p =>
    rw [Session.value_ask_of_ok hc]
    obtain ⟨wire, hwire⟩ := Command.exists_frame hc
    obtain ⟨hafter, hheard⟩ := Connection.exchange_of_ready hready hwire
    exact ⟨⟨hafter.listener, hafter.node⟩, hheard⟩

lemma heard_sendAll (h : d.session.carrier.IsReady) (commands : List Command) :
    (sendAll perform d commands).value.2.session.carrier.IsReady ∧
      (sendAll perform d commands).value.2.session.carrier.node.heard =
        d.session.carrier.node.heard ++ (transcriptAll perform d commands).packets := by
  induction commands generalizing d with
  | nil => exact ⟨h, (List.append_nil _).symm⟩
  | cons c later ih =>
    obtain ⟨hready, hheard⟩ := heard_perform h c
    match hperform : (d.perform c).value with
    | (.error e, d') =>
      obtain ⟨hsend, htranscript⟩ := sendAll_of_error later hperform
      rw [hperform] at hready hheard
      rw [hsend, htranscript, Transcript.packets_cons]
      exact ⟨hready, hheard.trans (congrArg _ (List.append_nil _).symm)⟩
    | (.ok (), d') =>
      obtain ⟨hsend, htranscript⟩ := sendAll_of_ok later hperform
      rw [hperform] at hready hheard
      rw [hsend, htranscript, Transcript.packets_cons, ← List.append_assoc, ← hheard]
      exact ih hready

lemma heard_sendEach (h : d.session.carrier.IsReady) (commands : List Command) :
    (sendEach perform d commands).value.session.carrier.node.heard =
      d.session.carrier.node.heard ++ (transcriptEach perform d commands).packets := by
  induction commands generalizing d with
  | nil => exact (List.append_nil _).symm
  | cons c later ih =>
    obtain ⟨hready, hheard⟩ := heard_perform h c
    rw [sendEach_cons, transcriptEach, Transcript.packets_cons, ← List.append_assoc, ← hheard]
    exact ih hready

/-! ### Moments -/

lemma timeout_meet (d : Desk) (m : Moment) :
    (d.meet m).value.2.session.carrier.timeout = d.session.carrier.timeout := by
  have harrived := d.session.carrier.timeout_receive m.pieces
  show (if m.hangsUp then (d.session.carrier.receive m.pieces).hangUp
    else d.session.carrier.receive m.pieces).timeout = _
  split
  · exact (Connection.timeout_hangUp _).trans harrived
  · exact harrived

/-- Whatever arrives, a connection stays ready unless the node hangs up, and the node hears nothing
of it. -/
lemma heard_meet (h : d.session.carrier.IsReady) {m : Moment} (hup : m.hangsUp = false) :
    (d.meet m).value.2.session.carrier.IsReady ∧
      (d.meet m).value.2.session.carrier.node.heard = d.session.carrier.node.heard := by
  obtain ⟨hready, hnode⟩ := h.receive m.pieces
  have hcarrier : (d.meet m).value.2.session.carrier =
      { d.session.carrier.receive m.pieces with
        inbox.queue := (d.session.carrier.receive m.pieces).inbox.queue.drop m.decoded } := by
    simp only [meet, hup]
    rfl
  rw [hcarrier]
  exact ⟨⟨hready.listener, hready.node⟩, congrArg Node.heard hnode⟩

/-- The turns that moments make. -/
def turns (d : Desk) : List Moment → List Turn
  | [] => []
  | m :: later => (d.meet m).value.1 :: turns (d.meet m).value.2 later

end Desk

namespace Watch

variable {w : Watch} {d : Desk}

lemma halted_of_ended {s : Watching} {t : Turn} (h : s.ending.isSome = true) :
    w.halted s t = s.ending := if_pos h

lemma turn_of_halted {s : Watching} {t : Turn} {ending : Ending}
    (h : w.halted s t = some ending) :
    w.turn s t =
      (none, { s with waiting := s.waiting ++ t.arriving, ending := some ending }) := by
  simp only [turn, h]

lemma follow_cons (w : Watch) (s : Watching) (t : Turn) (later : List Turn) :
    w.follow s (t :: later) =
      ((w.turn s t).1.toList ++ (w.follow (w.turn s t).2 later).1,
        (w.follow (w.turn s t).2 later).2) := rfl

/-- A watch that ended reports nothing more. -/
lemma follow_of_ended {s : Watching} (h : s.ending.isSome = true) (turns : List Turn) :
    (w.follow s turns).1 = [] := by
  induction turns generalizing s with
  | nil => rfl
  | cons t later ih =>
    obtain ⟨ending, hending⟩ := Option.isSome_iff_exists.1 h
    rw [follow_cons, turn_of_halted ((halted_of_ended h).trans hending)]
    exact ih rfl

/-- What is reported at a desk is what the watch reports in the turns that the moments make. -/
lemma reported_report (w : Watch) (s : Watching) (d : Desk) (moments : List Moment) :
    (w.report s d moments).value.1 = (w.follow s (d.turns moments)).1 := by
  induction moments generalizing s d with
  | nil => rfl
  | cons m later ih =>
    rw [report]
    split
    · next hended => exact (follow_of_ended hended _).symm
    · exact congrArg (_ ++ ·) (ih (w.turn s (d.meet m).value.1).2 (d.meet m).value.2)

lemma keeps_report {P : Desk → Prop} {moments : List Moment}
    (hkeeps : ∀ d, ∀ m ∈ moments, P d → P (d.meet m).value.2) (h : P d) (s : Watching) :
    P (w.report s d moments).value.2 := by
  induction moments generalizing s d with
  | nil => exact h
  | cons m later ih =>
    rw [report]
    split
    · exact h
    · exact ih (fun d m hm => hkeeps d m (List.mem_cons_of_mem _ hm))
        (hkeeps d m List.mem_cons_self h) (w.turn s (d.meet m).value.1).2

/-- Over a connection that stays up, the node hears nothing while records are reported. -/
lemma heard_report {moments : List Moment} (hup : ∀ m ∈ moments, m.hangsUp = false)
    (h : d.session.carrier.IsReady) (s : Watching) :
    (w.report s d moments).value.2.session.carrier.IsReady ∧
      (w.report s d moments).value.2.session.carrier.node.heard =
        d.session.carrier.node.heard := by
  refine keeps_report (P := fun d' => d'.session.carrier.IsReady ∧
    d'.session.carrier.node.heard = d.session.carrier.node.heard) ?_ ⟨h, rfl⟩ s
  rintro d' m hm ⟨hready, hheard⟩
  obtain ⟨hready', hheard'⟩ := Desk.heard_meet hready (hup m hm)
  exact ⟨hready', hheard'.trans hheard⟩

end Watch

end Cli

end ControlNode
