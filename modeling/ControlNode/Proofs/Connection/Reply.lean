import ControlNode.Proofs.Connection.Exchange
import ControlNode.Proofs.Connection.Listener
import Mathlib.Data.List.TakeWhile

/-!
# The reply to a packet

On a line that goes on, a turn of the listener routes a packet, or gets a silence of the line over,
or there is nothing left to route (`Listener.effort_turn_lt_of_isUp`). So a listener that takes as
many turns as it does when it catches up routes all packets that have arrived
(`Listener.inbox_catchUp`), and the answer to a packet that is sent over a new connection is the
last answer among the packets that the reply of the node completes (`Connection.exchange_of_new`).
-/

namespace ControlNode

open ControlNode.Frame ControlNode.Line

/-! ### Silence -/

/-- A read that is interrupted or finds nothing in time gets a silence over, or there is nothing to
read. -/
lemma Line.Source.stream_or_leading_of_read {s s' : Source} {limit : Nat} {f : Fault}
    (h : s.read limit = (.error f, s')) (hf : (Arrival.fault f).goesOn = true) :
    s.stream = [] ∨ s'.leading.length < s.leading.length := by
  unfold read at h
  split at h
  · cases h
  · cases h
  · next fault arrivals hkept harr =>
    cases h
    refine .inr ?_
    rw [leading_cons harr hf, List.length_cons]
    exact Nat.lt_succ_self _
  · next hkept harr =>
    refine .inl ?_
    rw [stream, hkept, leading, harr]
    rfl

/-- If a line that goes on yields no packet, no packet is left, or a silence is over. -/
lemma Frame.Intake.outcome_or_leading_of_next {x x' : Intake} (hgoes : x.source.GoesOn)
    (hnext : x.next = (.ok none, x')) :
    x.outcome.1 = [] ∨ x'.source.leading.length < x.source.leading.length := by
  have hlimit : 0 < readLimit := Nat.succ_pos _
  fun_induction next x with
  | case1 x p d h => cases hnext
  | case2 x d h s hread => cases hnext
  | case3 x d h b bytes s hread ih =>
    obtain ⟨hstream, hlater⟩ := Source.stream_of_read_data hread
    have houtcome : x.outcome = Intake.outcome ⟨d.push (b :: bytes), s⟩ := by
      rw [outcome, Decoder.feed_of_next_none h, hstream, Decoder.feed, Decoder.push_append]
      rfl
    rw [houtcome]
    exact (ih (hgoes.read hlimit hread).1 hnext).imp_right
      fun hlt => Nat.lt_of_lt_of_le hlt hlater.leading_le
  | case4 x d h f s hread hf ih =>
    have hfault := (hgoes.read hlimit hread).2
    obtain ⟨hstream, hlater, -⟩ := Source.stream_of_read_pause hread hfault
    have houtcome : x.outcome = Intake.outcome ⟨d, s⟩ := by
      rw [outcome, Decoder.feed_of_next_none h, hstream]
      rfl
    rw [houtcome]
    exact (ih (hgoes.read hlimit hread).1 hnext).imp_right
      fun hlt => Nat.lt_of_lt_of_le hlt hlater.leading_le
  | case5 x d h f s hread hf hpoll =>
    cases hnext
    refine (Source.stream_or_leading_of_read hread (hgoes.read hlimit hread).2).imp_left ?_
    intro hstream
    rw [outcome, hstream, Decoder.feed_nil_of_next_none h]
  | case6 x d h f s hread hf hpoll => cases hnext

/-! ### Catching up -/

namespace Listener

variable {l : Listener}

/-- A turn on a line that goes on leaves less to do, unless there is no packet to route. -/
lemma effort_turn_lt_of_isUp (h : l.IsUp) (x : Inbox) :
    l.outstanding = [] ∨ (l.turn x).1.effort < l.effort := by
  have hrest (intake : Intake) : effort { l with intake } =
      intake.outcome.1.length + intake.source.leading.length + 1 := effort_of_running h.running
  obtain ⟨p?, intake, hnext, -⟩ := Intake.next_of_goesOn h.goesOn
  have hprogress : l.intake.Progress (.ok p?) intake := by
    have hprogress := l.intake.progress_next
    rwa [hnext] at hprogress
  rw [turn, if_pos h.running, hnext, effort_of_running h.running, outstanding_of_running h.running]
  cases hprogress with
  | packet houtcome hlater =>
    refine .inr ?_
    have hle := hlater.leading_le
    rw [hrest, houtcome, List.length_cons]
    omega
  | silence houtcome _ _ =>
    refine (Intake.outcome_or_leading_of_next h.goesOn hnext).imp_right fun hlt => ?_
    rw [hrest, houtcome]
    omega

/-- Enough turns on a line that goes on leave no packet to route. -/
lemma outstanding_turns (h : l.IsUp) (n : Nat) (x : Inbox) (hn : l.effort ≤ n) :
    (turns n l x).1.outstanding = [] := by
  induction n generalizing l x with
  | zero =>
    rw [effort_of_running h.running] at hn
    omega
  | succ n ih =>
    rcases effort_turn_lt_of_isUp h x with hnone | hlt
    · obtain ⟨routed, hrouted, -⟩ := routed_turns (n + 1) l x
      rw [hnone] at hrouted
      exact (List.append_eq_nil_iff.1 hrouted.symm).2
    · exact ih (h.turn x) (l.turn x).2 (by omega)

/-- A listener that catches up routes all packets that have arrived, in their order. -/
theorem inbox_catchUp (h : l.IsUp) (x : Inbox) :
    (l.catchUp x).2 = (x.routeAll l.outstanding).value := by
  have hnone : (l.catchUp x).1.outstanding = [] := outstanding_turns h _ x l.effort_le
  obtain ⟨routed, hrouted, hinbox⟩ :=
    routed_turns (l.intake.source.weight + l.intake.decoder.weight + 1) l x
  rw [← catchUp, hnone, List.append_nil] at hrouted
  rw [hrouted]
  exact hinbox

end Listener

/-! ### New connections -/

namespace Connection

/-- The packets that pieces of data complete, if they are the first to arrive on a line. -/
def completed (pieces : List (List UInt8)) : List Packet :=
  (({} : Decoder).feed pieces.flatten).value.1

/-- What arrives in pieces is one stream. -/
lemma stream_arrivals (pieces : List (List UInt8)) (ending : Ending) :
    ({ arrivals := arrivals pieces, ending } : Source).stream = pieces.flatten := by
  show [] ++ ((arrivals pieces).takeWhile Arrival.goesOn).flatMap Arrival.bytes = _
  rw [List.takeWhile_eq_self_iff.2 fun a => goesOn_of_mem_arrivals, List.nil_append, arrivals,
    List.flatMap_map]
  show (pieces.filter (· ≠ [])).flatMap id = pieces.flatten
  rw [List.flatMap_id, List.flatten_filter_ne_nil]

/-- Over a connection that is up, the answer to a packet is the last answer among the packets that
the reply of the node leaves to route. -/
lemma exchange_of_isUp {c : Connection} {p : Packet} {wire : List UInt8} (h : c.listener.IsUp)
    (hp : encode p = .ok wire) :
    let reply := c.node.hear wire
    (c.exchange p).value.1 =
        Inbox.lastAnswer? (c.listener.arrive (arrivals reply.1)).outstanding ∧
      (c.exchange p).value.2.node = reply.2 := by
  have hinbox := Listener.inbox_catchUp (h.arrive (c.node.hear wire).1) c.inbox.discardStale.value
  rw [value_exchange_of_up h.running hp, hinbox]
  exact ⟨Inbox.mailbox_routeAll_discardStale _ _, rfl⟩

/-- Over a new connection, the frame of a packet is written once, and the answer is the last answer
that the reply of the node completes. -/
theorem exchange_of_new (n : Node) (timeout : Duration) {p : Packet} {wire : List UInt8}
    (hp : encode p = .ok wire) :
    let done := (({ timeout, node := n } : Connection).exchange p).value
    done.1 = Inbox.lastAnswer? (completed (n.hear wire).1) ∧ done.2.node = (n.hear wire).2 := by
  have hup : ({ timeout, node := n } : Connection).listener.IsUp := ⟨rfl, nofun, rfl⟩
  have houtstanding :
      (Listener.arrive { intake := { source := { arrivals := [], ending := .quiet } } }
        (arrivals (n.hear wire).1)).outstanding = completed (n.hear wire).1 := by
    rw [Listener.outstanding_of_running (hup.arrive (n.hear wire).1).running, completed,
      ← stream_arrivals _ .quiet]
    rfl
  rw [← houtstanding]
  exact exchange_of_isUp hup hp

end Connection

end ControlNode
